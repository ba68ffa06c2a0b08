import SourceLens.Doc
import SourceLens.Text.Blank

/-!
# Showing documentation

Documentation is shown without its tags and on one line per section.  A hover puts the declaration
in a code fence and then each section that has content, in a fixed order.
-/

namespace SourceLens.Doc

/-- The text after a tag whose opening bracket has been read.  A tag has at least one character. -/
def afterTag? : List Char → Option (List Char)
  | '>' :: _ => none
  | chars =>
      match chars.dropWhile (· != '>') with
      | _ :: rest => some rest
      | [] => none

/-- What follows a tag is shorter than the text that holds the tag. -/
theorem length_of_afterTag? {chars rest : List Char} (found : afterTag? chars = some rest) :
    rest.length < chars.length := by
  unfold afterTag? at found
  split at found
  · simp at found
  · split at found
    · next dropped =>
        have bound := (List.dropWhile_sublist (p := (· != '>')) (l := chars)).length_le
        rw [dropped] at bound
        simp at found bound
        subst found
        omega
    · simp at found

/-- Replaces each tag with a space. -/
def dropTags : List Char → List Char
  | [] => []
  | char :: chars =>
      if char = '<' then
        match _found : afterTag? chars with
        | some rest => ' ' :: dropTags rest
        | none => char :: dropTags chars
      else char :: dropTags chars
termination_by chars => chars.length
decreasing_by
  · have := length_of_afterTag? _found
    simp
    omega
  · simp
  · simp

/-- A text without tags and with single spaces between its words. -/
def clean (text : String) : String :=
  Text.mapChars (fun chars => Text.collapse (dropTags chars)) text

/-- A text without tags, unless nothing is left of it. -/
def cleaned? (text : Option String) : Option String :=
  (text.map clean).filter fun text => !text.isEmpty

/-- A titled section of a hover. -/
def titled (title body : String) : String :=
  "**" ++ title ++ "**\n\n" ++ body

/-- The list of described parameters, unless none has a description. -/
def paramList? (params : List (String × String)) : Option String :=
  let items := params.filterMap fun (name, text) =>
    (cleaned? (some text)).map fun text => "- `" ++ name ++ "`: " ++ text
  if items.isEmpty then none else some (String.intercalate "\n" items)

/-- The titled sections of a documentation that have content. -/
def sections (doc : Doc) : List String :=
  ((cleaned? doc.summary).map (titled "Summary")).toList ++
    ((paramList? doc.params).map (titled "Parameters")).toList ++
    ((cleaned? doc.returns).map (titled "Returns")).toList ++
    ((cleaned? doc.remarks).map (titled "Remarks")).toList

/-- The text of a hover. -/
def hoverText (language declaration : String) (doc : Option Doc) : String :=
  let fence := "```" ++ language ++ "\n" ++ declaration ++ "\n```"
  String.intercalate "\n\n" (fence :: ((doc.map sections).getD []))

/-- The summary as signature help shows it. -/
def summaryText? (doc : Option Doc) : Option String :=
  doc.bind fun doc => cleaned? doc.summary

/-- The description of a parameter as signature help shows it. -/
def paramText? (doc : Option Doc) (name : String) : Option String :=
  doc.bind fun doc => cleaned? (doc.param? name)

end SourceLens.Doc
