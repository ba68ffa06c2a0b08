import Mathlib.Data.List.TakeDrop
import SourceLens.Doc.Parse
import SourceLens.Proofs.Layout.Lines
import SourceLens.Proofs.Text.JoinedLines

/-!
# Sections under headings are read back

A draft is a summary, a list of parameters, what is returned and remarks.  Written out under headings, with
any number of empty lines between its parts, it is read back as it was: no line of a part goes to the next
part, and none is added to the description of a parameter.

What a part may hold is said of its text alone.  A passage has no line that starts with a number sign or
opens fenced code (`Passage`), and so its lines are plain (`IsPlain`): they stay in the section in which they
stand.  A parameter is written on one line (`Item`), which is plain as well and is read as a list item.
A reading then takes a heading and the plain lines below it in one step (`foldl_addLine_section`).
-/

namespace SourceLens.Doc

open Text

/-- Whether a line belongs to the section in which it stands. -/
def IsPlain (line : List Char) : Prop :=
  heading? line = none ∧ isFence line = false

/-- Some lines between empty ones. -/
def padded (before : Nat) (lines : List (List Char)) (after : Nat) : List (List Char) :=
  List.replicate before [] ++ (lines ++ List.replicate after [])

theorem forall_mem_padded {before after : Nat} {lines : List (List Char)} {property : List Char → Prop}
    (empty : property []) (inside : ∀ line ∈ lines, property line) :
    ∀ line ∈ padded before lines after, property line := by
  intro line member
  simp only [padded, List.mem_append, List.mem_replicate] at member
  rcases member with ⟨-, rfl⟩ | member | ⟨-, rfl⟩
  · exact empty
  · exact inside line member
  · exact empty

section Reading

variable {reading : Reading} {line : List Char} {lines : List (List Char)}

/-- Whether a line is a heading that starts a section. -/
def Opens (line : List Char) (part : Section) : Prop :=
  isFence line = false ∧
    ∃ title, heading? line = some title ∧ Section.ofTitle (String.ofList (lowerAscii title)) = part

/-- A reading with further lines in its section. -/
def Reading.extend (reading : Reading) (lines : List (List Char)) : Reading :=
  match reading.current with
  | .summary => { reading with summary := reading.summary ++ lines }
  | .params => { reading with params := lines.foldl addParamLine reading.params }
  | .returns => { reading with returns := reading.returns ++ lines }
  | .remarks => { reading with remarks := reading.remarks ++ lines }
  | .ignored => reading

theorem foldl_addLine_of_plain (notInCode : reading.inCode = false)
    (plain : ∀ line ∈ lines, IsPlain line) :
    lines.foldl Reading.addLine reading = reading.extend lines := by
  rcases reading with ⟨current, inCode, summary, params, returns, remarks⟩
  subst notInCode
  induction lines generalizing summary params returns remarks with
  | nil => cases current <;> simp [Reading.extend]
  | cons line lines ih =>
      rw [List.forall_mem_cons] at plain
      rw [List.foldl_cons, Reading.addLine, if_neg (by simp [plain.1.2]), Reading.addText, plain.1.1]
      cases current <;> simp [ih plain.2, Reading.extend]

/-- A heading and the plain lines below it make up a section. -/
theorem foldl_addLine_section {part : Section} (notInCode : reading.inCode = false)
    (opens : Opens line part) (plain : ∀ line ∈ lines, IsPlain line) :
    (line :: lines).foldl Reading.addLine reading =
      { reading with current := part }.extend lines := by
  rcases opens with ⟨notFence, title, isHeading, rfl⟩
  have moved : reading.addLine line =
      { reading with current := .ofTitle (String.ofList (lowerAscii title)) } := by
    simp [Reading.addLine, notFence, notInCode, Reading.addText, isHeading]
  rw [List.foldl_cons, moved]
  exact foldl_addLine_of_plain notInCode plain

end Reading

/-- A text that can stand in a section: trimmed, not empty, without carriage returns, and with no line that
would be a heading or open fenced code. -/
structure Passage where
  text : String
  nonempty : text ≠ ""
  trimmed : trim text.toList = text.toList
  noReturn : '\r' ∉ text.toList
  noHeading : ∀ line ∈ text.toList.splitOn '\n', line.head? ≠ some '#'
  noFence : ∀ line ∈ text.toList.splitOn '\n', ¬['\x60', '\x60', '\x60'] <+: trimLeading line

namespace Passage

/-- The lines of a passage. -/
def lines (passage : Passage) : List (List Char) :=
  passage.text.toList.splitOn '\n'

theorem joinLines_lines (passage : Passage) : joinLines passage.lines = passage.text.toList :=
  List.intercalate_splitOn '\n'

theorem lines_ne_nil (passage : Passage) : passage.lines ≠ [] :=
  List.splitOn_ne_nil '\n' passage.text.toList

variable {line : List Char}

theorem isPlain_of_mem (passage : Passage) (member : line ∈ passage.lines) : IsPlain line := by
  constructor
  · have noHeading := passage.noHeading line member
    unfold heading?
    split
    · simp at noHeading
    · rfl
  · have noFence := passage.noFence line member
    rwa [← List.isPrefixOf_iff_prefix, Bool.not_eq_true, ← isFence] at noFence

theorem isPlain_of_mem_padded (passage : Passage) {before after : Nat} :
    ∀ line ∈ padded before passage.lines after, IsPlain line :=
  forall_mem_padded ⟨rfl, rfl⟩ fun _ => passage.isPlain_of_mem

theorem noReturn_of_mem (passage : Passage) (member : line ∈ passage.lines) :
    line.getLast? ≠ some '\r' := by
  intro last
  apply passage.noReturn
  rw [← passage.joinLines_lines]
  exact mem_joinLines member (List.mem_of_getLast? last)

/-- The last line of a passage is not empty, since a trimmed text does not end with a line feed. -/
theorem getLast?_lines (passage : Passage) : passage.lines.getLast? ≠ some [] := by
  intro last
  rcases List.getLast?_eq_some_iff.mp last with ⟨front, linesEq⟩
  have joined := passage.joinLines_lines
  cases front with
  | nil =>
      rw [linesEq] at joined
      exact passage.nonempty (String.toList_eq_nil_iff.mp joined.symm)
  | cons first front =>
      rw [linesEq, joinLines_append (by simp) (by simp)] at joined
      have endsWithFeed : (dropTrailing isBlank passage.text.toList).getLast? = some '\n' := by
        rw [dropTrailing_eq_of_trim passage.trimmed, ← joined]
        simp [joinLines]
      exact absurd (getLast?_dropTrailing endsWithFeed) (by decide)

/-- A passage is what is left of a section that holds it between empty lines. -/
theorem joinSection?_padded (passage : Passage) (before after : Nat) :
    joinSection? (padded before passage.lines after) = some passage.text := by
  have feedsAreBlank : ∀ count, ∀ char ∈ List.replicate count '\n', isBlank char = true := by
    intro count char member
    rw [List.eq_of_mem_replicate member]
    decide
  have nonempty : passage.text.toList ≠ [] := mt String.toList_eq_nil_iff.mp passage.nonempty
  have joined : joinLines (padded before passage.lines after) =
      List.replicate before '\n' ++ (passage.text.toList ++ List.replicate after '\n') := by
    rw [padded, joinLines_empty_append (by simp [passage.lines_ne_nil]),
      joinLines_append_empty passage.lines_ne_nil, passage.joinLines_lines]
  rw [joinSection?, joined, trim_surrounded (feedsAreBlank before) (feedsAreBlank after) nonempty
    passage.trimmed]
  simp [nonempty]

end Passage

/-- A parameter that can stand in a list: its name is an identifier, and its description is trimmed and on
one line. -/
structure Item where
  name : String
  text : String
  isName : name.toList.head?.any isNameStart = true ∧ name.toList.all isNameChar = true
  trimmed : trim text.toList = text.toList
  oneLine : '\n' ∉ text.toList

/-- A bullet, a name and a dash make an item of what follows. -/
theorem listItem?_bullet {rest name tail description : List Char}
    (spaced : rest.head?.any isBlank = true)
    (opened : dropBackquote (trimLeading rest) = name ++ tail)
    (startsName : name.head?.any isNameStart = true) (isName : ∀ char ∈ name, isNameChar char = true)
    (endsName : tail.head?.any isNameChar = false)
    (closed : trimLeading (dropBackquote tail) = '-' :: description) :
    listItem? ('*' :: rest) = some (String.ofList name, String.ofList (trim description)) := by
  have headed : (name.head?.or tail.head?).any isNameStart = true := by
    cases name with
    | nil => simp at startsName
    | cons first name => simpa using startsName
  have taken : (name ++ tail).takeWhile isNameChar = name := by
    rw [List.takeWhile_append_of_pos isName]
    cases tail with
    | nil => simp
    | cons first tail => simp [show isNameChar first = false by simpa using endsName]
  have dropped : (name ++ tail).dropWhile isNameChar = tail := by
    rw [List.dropWhile_append_of_pos isName]
    cases tail with
    | nil => rfl
    | cons first tail => simp [show isNameChar first = false by simpa using endsName]
  simp [listItem?, spaced, opened, headed, taken, dropped, closed]

namespace Item

/-- The line of an item. -/
def line (item : Item) : String :=
  "* \x60" ++ item.name ++ "\x60 - " ++ item.text

theorem isPlain (item : Item) : IsPlain item.line.toList := by
  have lineEq : item.line.toList = '*' :: (" \x60".toList ++ item.name.toList ++ "\x60 - ".toList ++
      item.text.toList) := by
    simp [line]
  rw [lineEq]
  exact ⟨rfl, rfl⟩

theorem not_mem_line (item : Item) : '\n' ∉ item.line.toList := by
  have notInName : '\n' ∉ item.name.toList := by
    intro member
    exact absurd (List.all_eq_true.mp item.isName.2 _ member) (by decide)
  simp [line, notInName, item.oneLine]

theorem noReturn (item : Item) : item.line.toList.getLast? ≠ some '\r' := by
  have lineEq : item.line.toList =
      ("* \x60".toList ++ item.name.toList ++ "\x60 -".toList ++ [' ']) ++ item.text.toList := by
    simp [line]
  intro last
  rw [lineEq, List.getLast?_append] at last
  cases textLast : item.text.toList.getLast? with
  | none =>
      rw [textLast, Option.none_or, List.getLast?_concat] at last
      exact absurd last (by decide)
  | some char =>
      have solid : isBlank char = false := by
        apply @getLast?_dropTrailing isBlank item.text.toList
        rw [dropTrailing_eq_of_trim item.trimmed, textLast]
      rw [textLast, Option.some_or, Option.some.injEq] at last
      subst last
      exact absurd solid (by decide)

/-- Trimming an item takes off at most the space in front of an empty description. -/
theorem trim_line (item : Item) :
    trim item.line.toList =
      "* \x60".toList ++ (item.name.toList ++ ("\x60 ".toList ++
        '-' :: dropTrailing isBlank (' ' :: item.text.toList))) := by
  have lineEq : item.line.toList =
      ("* \x60".toList ++ item.name.toList ++ "\x60 ".toList) ++ '-' :: (' ' :: item.text.toList) := by
    simp [line]
  have startsSolid : trimLeading item.line.toList = item.line.toList := by
    apply dropLeading_eq_self
    intro char isFirst
    obtain rfl : '*' = char := by simpa [lineEq] using isFirst
    decide
  rw [trim, startsSolid, lineEq, dropTrailing_append_cons (by decide)]
  simp

theorem trim_dropTrailing_text (item : Item) :
    trim (dropTrailing isBlank (' ' :: item.text.toList)) = item.text.toList := by
  have trimmed := item.trimmed
  cases chars : item.text.toList with
  | nil => rfl
  | cons first rest =>
      rw [chars] at trimmed
      have solid : isBlank first = false := head?_trim (by rw [trimmed]; rfl)
      have endsSolid : dropTrailing isBlank rest = rest := by
        have whole := dropTrailing_eq_of_trim trimmed
        rw [← List.nil_append (first :: rest), dropTrailing_append_cons solid] at whole
        simpa using whole
      rw [← List.singleton_append, dropTrailing_append_cons solid, endsSolid,
        trim_blanks_append (by simp; decide), trimmed]

theorem listItem?_line (item : Item) :
    listItem? (trim item.line.toList) = some (item.name, item.text) := by
  have described := item.trim_dropTrailing_text
  rw [trim_line]
  generalize dropTrailing isBlank (' ' :: item.text.toList) = description at described
  have isItem := @listItem?_bullet
    (' ' :: '\x60' :: (item.name.toList ++ '\x60' :: ' ' :: '-' :: description)) item.name.toList
    ('\x60' :: ' ' :: '-' :: description) description rfl rfl item.isName.1
    (by simpa using item.isName.2) rfl rfl
  rw [described, String.ofList_toList, String.ofList_toList] at isItem
  exact isItem

end Item

/-- What is to be written under headings. -/
structure Draft where
  summary : Passage
  items : List Item
  returns : Passage
  remarks : Passage

namespace Draft

/-- The text of a draft, given how many empty lines follow each of its parts. -/
def text (draft : Draft) (gap : Nat → Nat) : String :=
  String.intercalate "\n"
    ([draft.summary.text] ++ List.replicate (gap 0) "" ++
      ["# Arguments"] ++ List.replicate (gap 1) "" ++ draft.items.map Item.line ++
      List.replicate (gap 2) "" ++
      ["# Returns"] ++ List.replicate (gap 3) "" ++ [draft.returns.text] ++ List.replicate (gap 4) "" ++
      ["# Remarks"] ++ List.replicate (gap 5) "" ++ [draft.remarks.text])

/-- The sections of a draft. -/
def doc (draft : Draft) : Doc where
  summary := some draft.summary.text
  params := draft.items.map fun item => (item.name, item.text)
  returns := some draft.returns.text
  remarks := some draft.remarks.text

/-- The lines of the parameters of a draft. -/
def itemLines (draft : Draft) : List (List Char) :=
  draft.items.map fun item => item.line.toList

variable (draft : Draft) (gap : Nat → Nat)

theorem forall_mem_itemLines {property : List Char → Prop}
    (ofItem : ∀ item : Item, property item.line.toList) : ∀ line ∈ draft.itemLines, property line := by
  intro line member
  rcases List.mem_map.mp member with ⟨item, -, rfl⟩
  exact ofItem item

/-- The list of parameters is read from their lines, with none of them continued by an empty line. -/
theorem foldl_addParamLine_padded (before after : Nat) :
    (padded before draft.itemLines after).foldl addParamLine [] = draft.doc.params := by
  have empty : ∀ count params, (List.replicate count []).foldl addParamLine params = params := by
    intro count params
    induction count with
    | zero => rfl
    | succ count ih =>
        have noChange : addParamLine params [] = params := rfl
        rw [List.replicate_succ, List.foldl_cons, noChange, ih]
  have items : ∀ params, draft.itemLines.foldl addParamLine params = params ++ draft.doc.params := by
    rw [itemLines, doc]
    induction draft.items with
    | nil => simp
    | cons item items ih => simp [ih, addParamLine, item.listItem?_line]
  rw [padded, List.foldl_append, empty, List.foldl_append, empty, items, List.nil_append]

/-- The parts of a draft between line feeds, section by section. -/
theorem splitOn_text :
    (draft.text gap).toList.splitOn '\n' =
      padded 0 draft.summary.lines (gap 0) ++
        ("# Arguments".toList :: padded (gap 1) draft.itemLines (gap 2)) ++
        ("# Returns".toList :: padded (gap 3) draft.returns.lines (gap 4)) ++
        ("# Remarks".toList :: padded (gap 5) draft.remarks.lines 0) := by
  have feed : "\n".toList = ['\n'] := rfl
  have empties : ∀ count, ((List.replicate count "".toList).flatMap fun line => line.splitOn '\n') =
      List.replicate count [] := by
    intro count
    apply flatMap_splitOn_of_not_mem
    intro line member
    rw [List.eq_of_mem_replicate member]
    simp
  have items : (((draft.items.map Item.line).map String.toList).flatMap fun line =>
      line.splitOn '\n') = draft.itemLines := by
    rw [List.map_map]
    exact flatMap_splitOn_of_not_mem (draft.forall_mem_itemLines Item.not_mem_line)
  have heading : ∀ title ∈ ["# Arguments", "# Returns", "# Remarks"],
      title.toList.splitOn '\n' = [title.toList] := by decide
  rw [text, String.toList_intercalate, feed, ← joinLines, splitOn_joinLines (by simp)]
  simp only [List.map_append, List.map_replicate, List.flatMap_append, empties, items, List.map_cons,
    List.map_nil, List.flatMap_singleton]
  rw [heading "# Arguments" (by simp), heading "# Returns" (by simp), heading "# Remarks" (by simp)]
  simp only [padded, Passage.lines, List.replicate_zero, List.nil_append, List.append_nil,
    List.append_assoc, List.cons_append]

theorem lines_text : Text.lines (draft.text gap).toList = (draft.text gap).toList.splitOn '\n' := by
  have padding : ([] : List Char).getLast? ≠ some '\r' := by simp
  apply lines_eq_splitOn
  · rw [draft.splitOn_text]
    simp only [List.forall_mem_append, List.forall_mem_cons]
    refine ⟨⟨⟨?summary, by decide, ?items⟩, by decide, ?returns⟩, by decide, ?remarks⟩
    case summary => exact forall_mem_padded padding fun _ => draft.summary.noReturn_of_mem
    case items => exact forall_mem_padded padding (draft.forall_mem_itemLines Item.noReturn)
    case returns => exact forall_mem_padded padding fun _ => draft.returns.noReturn_of_mem
    case remarks => exact forall_mem_padded padding fun _ => draft.remarks.noReturn_of_mem
  · have unpadded : padded (gap 5) draft.remarks.lines 0 =
        List.replicate (gap 5) [] ++ draft.remarks.lines := by
      simp [padded]
    rw [draft.splitOn_text, unpadded, ← List.cons_append, ← List.append_assoc,
      List.getLast?_append_of_ne_nil _ draft.remarks.lines_ne_nil]
    exact draft.remarks.getLast?_lines

/-- What a reading holds after the lines of a draft. -/
theorem foldl_addLine_lines :
    (Text.lines (draft.text gap).toList).foldl Reading.addLine {} =
      { current := .remarks
        summary := padded 0 draft.summary.lines (gap 0)
        params := draft.doc.params
        returns := padded (gap 3) draft.returns.lines (gap 4)
        remarks := padded (gap 5) draft.remarks.lines 0 } := by
  have opensParams : Opens "# Arguments".toList .params := ⟨rfl, "Arguments".toList, rfl, rfl⟩
  have opensReturns : Opens "# Returns".toList .returns := ⟨rfl, "Returns".toList, rfl, rfl⟩
  have opensRemarks : Opens "# Remarks".toList .remarks := ⟨rfl, "Remarks".toList, rfl, rfl⟩
  have plainItems : ∀ line ∈ padded (gap 1) draft.itemLines (gap 2), IsPlain line :=
    forall_mem_padded ⟨rfl, rfl⟩ (draft.forall_mem_itemLines Item.isPlain)
  rw [draft.lines_text, draft.splitOn_text, List.foldl_append, List.foldl_append, List.foldl_append,
    foldl_addLine_of_plain rfl draft.summary.isPlain_of_mem_padded,
    foldl_addLine_section rfl opensParams plainItems,
    foldl_addLine_section rfl opensReturns draft.returns.isPlain_of_mem_padded,
    foldl_addLine_section rfl opensRemarks draft.remarks.isPlain_of_mem_padded]
  simp [Reading.extend, draft.foldl_addParamLine_padded]

/-- A draft under headings is read back, unless it is read as tagged. -/
theorem parse_text (untagged : isTagged (draft.text gap).toList = false) :
    parse (draft.text gap) = draft.doc := by
  rw [parse, if_neg (by simp [untagged]), ofHeaded, draft.foldl_addLine_lines]
  simp only [Passage.joinSection?_padded]
  rfl

/-- A draft with an indented number sign, a parameter without description and a returned value that looks
like a parameter. -/
def division : Draft where
  summary :=
    { text := "Divides.\n\n # rounds down"
      nonempty := by decide
      trimmed := by decide
      noReturn := by decide
      noHeading := by decide
      noFence := by decide }
  items :=
    [{ name := "left"
       text := "the dividend"
       isName := by decide
       trimmed := by decide
       oneLine := by decide },
      { name := "_r2"
        text := ""
        isName := by decide
        trimmed := by decide
        oneLine := by decide }]
  returns :=
    { text := "* \x60q\x60 - the quotient"
      nonempty := by decide
      trimmed := by decide
      noReturn := by decide
      noHeading := by decide
      noFence := by decide }
  remarks :=
    { text := "None.\n\x60\x60 a < b"
      nonempty := by decide
      trimmed := by decide
      noReturn := by decide
      noHeading := by decide
      noFence := by decide }

theorem parse_text_division :
    isTagged (division.text fun _ => 1).toList = false ∧
      parse (division.text fun _ => 1) = division.doc := by
  have untagged : isTagged (division.text fun _ => 1).toList = false := by decide +kernel
  exact ⟨untagged, division.parse_text (fun _ => 1) untagged⟩

end Draft

end SourceLens.Doc
