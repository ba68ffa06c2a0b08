import SourceLens.Analysis
import SourceLens.Proofs.Program.Termination
import SourceLens.Proofs.Program.TypeNames

/-!
# Binding has an end

An analysis binds every identifier to what it denotes before anything else is asked of it.  Where
the parser's tree is regular, the only thing that can keep it from an end is the name of a type that
stands for itself.
-/

namespace SourceLens

namespace Search

variable {α β : Type}

instance : LawfulMonad Search :=
  LawfulMonad.mk' _ (by intro α search; cases search <;> rfl) (fun _ _ => rfl)
    (by intro α β γ search _ _; cases search <;> rfl)

@[simp]
theorem optional_eq_found_some {search : Search α} {value : α} :
    search.optional = .found (some value) ↔ search = .found value := by
  cases search <;> simp [optional]

theorem getElem?_of_mapM {next : α → Search β} {values : List α} {results : List β}
    (found : values.mapM next = .found results) :
    results.length = values.length ∧ ∀ (index : Nat) (value : α), values[index]? = some value →
      ∃ result, results[index]? = some result ∧ next value = .found result := by
  induction values generalizing results with
  | nil =>
      cases found
      simp
  | cons value values ih =>
      rw [List.mapM_cons] at found
      rcases bind_eq_found.mp found with ⟨first, firstEq, found⟩
      rcases bind_eq_found.mp found with ⟨rest, restEq, found⟩
      cases found
      rcases ih restEq with ⟨sameLength, each⟩
      refine ⟨by simp [sameLength], ?_⟩
      intro index other otherEq
      cases index with
      | zero =>
          cases otherEq
          exact ⟨first, rfl, firstEq⟩
      | succ index => exact each index other otherEq

theorem exists_mapM_eq_found {next : α → Search β} {values : List α}
    (each : ∀ value ∈ values, ∃ result, next value = .found result) :
    ∃ results, values.mapM next = .found results := by
  induction values with
  | nil => exact ⟨[], rfl⟩
  | cons value values ih =>
      rcases each value List.mem_cons_self with ⟨first, firstEq⟩
      rcases ih fun other member => each other (List.mem_cons_of_mem _ member) with ⟨rest, restEq⟩
      refine ⟨first :: rest, ?_⟩
      rw [List.mapM_cons, firstEq, restEq]
      rfl

end Search

namespace Program

variable {program : Program} {bindings : Bindings}

theorem binding_of_isName {node : NodeId} (isLeaf : program.tree.children node = [])
    (isIdentifier : program.tree.kind node = .identifier) :
    program.binding node = (program.resolveToken #[] node).optional := by
  simp [binding, isLeaf, isIdentifier]

/-- Nodes are bound to nothing, unless they are identifiers without children. -/
theorem binding_cases (program : Program) (node : NodeId) :
    program.binding node = .found none ∨
      program.tree.children node = [] ∧ program.tree.kind node = .identifier := by
  unfold binding
  split
  next isName => exact .inr (by simpa using isName)
  next => exact .inl rfl

theorem binding_ne_absent (program : Program) (node : NodeId) : program.binding node ≠ .absent := by
  rcases program.binding_cases node with unbound | ⟨isLeaf, isIdentifier⟩
  · simp [unbound]
  · rw [binding_of_isName isLeaf isIdentifier]
    cases program.resolveToken #[] node <;> simp [Search.optional]

theorem resolveToken_of_binding {node : NodeId} {declaration : Declaration}
    (bound : program.binding node = .found (some declaration)) :
    program.resolveToken #[] node = .found declaration := by
  rcases program.binding_cases node with unbound | ⟨isLeaf, isIdentifier⟩
  · rw [unbound] at bound
    cases bound
  · rw [binding_of_isName isLeaf isIdentifier, Search.optional_eq_found_some] at bound
    exact bound

theorem binding_of_bindAll (bound : program.bindAll = .found bindings) :
    bindings.size = program.tree.nodes.size ∧
      ∀ node < program.tree.nodes.size, program.binding node = .found (bindings.known? node) := by
  rcases Search.bind_eq_found.mp bound with ⟨results, found, same⟩
  cases same
  rcases Search.getElem?_of_mapM found with ⟨sameLength, each⟩
  refine ⟨by simpa [Tree.ids] using sameLength, ?_⟩
  intro node inRange
  rcases each node node (by simp [Tree.ids, inRange]) with ⟨result, resultEq, denotes⟩
  rw [denotes, Bindings.known?, Array.getD_eq_getD_getElem?]
  simp [resultEq]

/-- All nodes are bound, if no search for what one of them denotes goes on for ever. -/
theorem exists_bindAll_iff :
    (∃ bindings, program.bindAll = .found bindings) ↔
      ∀ node < program.tree.nodes.size, program.binding node ≠ .endless := by
  constructor
  · rintro ⟨bindings, bound⟩ node inRange
    rw [(binding_of_bindAll bound).2 node inRange]
    simp
  · intro ends
    have each : ∀ node ∈ program.tree.ids, ∃ result, program.binding node = .found result := by
      intro node member
      have inRange : node < program.tree.nodes.size := by simpa [Tree.ids] using member
      cases denotes : program.binding node with
      | found result => exact ⟨result, rfl⟩
      | absent => exact absurd denotes (program.binding_ne_absent node)
      | endless => exact absurd denotes (ends node inRange)
    rcases Search.exists_mapM_eq_found each with ⟨results, found⟩
    refine ⟨results.toArray, ?_⟩
    rw [bindAll, found]
    rfl

theorem lt_size_of_known (bound : program.bindAll = .found bindings) {token : NodeId}
    {declaration : Declaration} (known : bindings.known? token = some declaration) :
    token < program.tree.nodes.size := by
  by_contra outside
  rw [← (binding_of_bindAll bound).1] at outside
  simp [Bindings.known?, Array.getD_eq_getD_getElem?, outside] at known

/-- Only identifiers without children are bound to anything. -/
theorem isName_of_known (bound : program.bindAll = .found bindings) {token : NodeId}
    {declaration : Declaration} (known : bindings.known? token = some declaration) :
    program.tree.children token = [] ∧ program.tree.kind token = .identifier := by
  have denotes := (binding_of_bindAll bound).2 token (lt_size_of_known bound known)
  rcases program.binding_cases token with unbound | isName
  · rw [unbound, known] at denotes
    cases denotes
  · exact isName

theorem isSound_of_bindAll (bound : program.bindAll = .found bindings) :
    bindings.IsSound program := by
  intro token declaration known
  have denotes := (binding_of_bindAll bound).2 token (lt_size_of_known bound known)
  rw [known] at denotes
  exact ⟨program.infer #[], resolveToken_of_binding denotes⟩

theorem isSound_empty (program : Program) : Bindings.IsSound #[] program := by
  intro token declaration known
  simp [Bindings.known?] at known

/-- Whether inference has an end for what is known so far, and more steps change nothing. -/
structure Ends (program : Program) (known : Bindings) : Prop where
  infer : ∀ node depth, program.inferAt known node depth ≠ .endless
  steps : ∀ bound, program.inferenceSteps ≤ bound → ∀ node depth,
    program.inferWithin known bound node depth = program.inferAt known node depth
  token : ∀ token, program.tree.kind token = .identifier →
    program.resolveToken known token ≠ .endless
  denoted : ∀ node, program.denoted known node ≠ .endless
  value : ∀ declaration, program.valueType known declaration ≠ .endless

/-- Inference has an end, if names are resolved. -/
theorem ends_of_resolvesNames (regular : program.tree.Regular) (collected : program.Collected)
    (sound : bindings.IsSound program) (byName : program.ResolvesNames) :
    program.Ends bindings := by
  have ends := fun node depth => inferWithin_ne_endless regular collected sound byName
    (Nat.le_refl _) node depth
  refine ⟨ends, ?_, ?_, ?_, ?_⟩
  · intro bound enough node depth
    exact ((inferWithin_approximates enough node depth).eq (ends node depth)).symm
  · intro token isIdentifier
    apply resolveTokenWith_ne_endless (byName token isIdentifier)
    intro access inner _ _
    exact ends inner 0
  · intro node
    apply denotedWith_ne_endless byName
    intro name access inner _ _ _
    exact ends inner 0
  · intro declaration
    apply valueTypeWith_ne_endless
    intro inner _ _
    exact ends inner 1

/-- All nodes are bound, if names are resolved. -/
theorem exists_bindAll_of_resolvesNames (regular : program.tree.Regular)
    (collected : program.Collected) (byName : program.ResolvesNames) :
    ∃ bindings, program.bindAll = .found bindings := by
  rw [exists_bindAll_iff]
  intro node _
  rcases program.binding_cases node with unbound | ⟨isLeaf, isIdentifier⟩
  · simp [unbound]
  · have ends := ends_of_resolvesNames regular collected program.isSound_empty byName
    have denotes := ends.token node isIdentifier
    rw [binding_of_isName isLeaf isIdentifier]
    cases outcome : program.resolveToken #[] node with
    | endless => exact absurd outcome denotes
    | _ => simp [Search.optional]

/-- Whether an implementation is of a type called `Self`, or a trait is called so. -/
def NamesSelf (program : Program) : Prop :=
  ∃ owner type, (program.tree.rawKind owner = "impl_item" ∧
      program.tree.childInRole owner .type = some type ∨
    program.tree.rawKind owner = "trait_item" ∧
      program.tree.childInRole owner .name = some type) ∧
    TypeText.base (program.text type) = "Self"

theorem namesSelf_of_selfTypeAt {offset : Nat}
    (own : program.selfTypeAt offset = some "Self") : program.NamesSelf := by
  simp only [selfTypeAt, Option.bind_eq_bind, Option.bind_eq_some_iff, Option.pure_def,
    Option.some.injEq] at own
  rcases own with ⟨owner, ownerEq, type, typeEq, base⟩
  refine ⟨owner, type, ?_, base⟩
  simp only [Tree.findAt, Option.bind_eq_bind, Option.bind_eq_some_iff] at ownerEq
  rcases ownerEq with ⟨start, -, outer⟩
  have isOwner := List.find?_some outer
  simp only [Bool.or_eq_true, beq_iff_eq] at isOwner
  rcases isOwner with isImplementation | isTrait
  · simp only [isImplementation, beq_self_eq_true, if_true] at typeEq
    exact .inl ⟨isImplementation, typeEq⟩
  · simp only [isTrait, String.reduceBEq, Bool.false_eq_true, if_false] at typeEq
    exact .inr ⟨isTrait, typeEq⟩

theorem resolvesNames_of_not_namesSelf (notSelf : ¬program.NamesSelf) :
    program.ResolvesNames := by
  intro token _ _ endless
  have own := (resolveType_eq_endless_iff.mp (resolveType_of_resolveByName endless)).2
  exact notSelf (namesSelf_of_selfTypeAt own)

/-- Binding and inference have an end at every node, both while nothing is bound yet and afterwards,
if the parser keeps to its grammar, the spans of the tree are regular and no implementation or trait is
called `Self`. -/
theorem ofSource_ends {library : Library} (loaded : library.Loaded) {parse : String → ParseTree}
    (grammar : ∀ text, (parse text).FollowsGrammar) (source : String)
    (regular : (parse source).IsRegular)
    (notSelf : ¬(ofSource library source (parse source).lower).NamesSelf) :
    ∃ bindings, (ofSource library source (parse source).lower).bindAll = .found bindings ∧
      (ofSource library source (parse source).lower).Ends #[] ∧
      (ofSource library source (parse source).lower).Ends bindings := by
  have collected := collected_ofSource loaded source (parse source).lower
  have regular : (ofSource library source (parse source).lower).tree.Regular :=
    regular.lower (grammar source)
  have byName := resolvesNames_of_not_namesSelf notSelf
  rcases exists_bindAll_of_resolvesNames regular collected byName with ⟨bindings, bound⟩
  refine ⟨bindings, bound, ?_, ?_⟩
  · exact ends_of_resolvesNames regular collected (isSound_empty _) byName
  · exact ends_of_resolvesNames regular collected (isSound_of_bindAll bound) byName

/-- A source in which the initial value of a variable is a member of a variable with the same name. -/
def shadowingSource : String :=
  "\x7blet x=x.y;x\x7d"

/-- The tree of `{let x=x.y;x}`. -/
def shadowingReceiver : ParseTree :=
  .named "source_file" 0 13 none
    [.named "expression_statement" 0 13 none
      [.named "block" 0 13 none
        [.spelled "\x7b" 0 1 none,
          .named "let_declaration" 1 11 none
            [.spelled "let" 1 4 none, .named "identifier" 5 6 "pattern" [], .spelled "=" 6 7 none,
              .named "field_expression" 7 10 "value"
                [.named "identifier" 7 8 "value" [], .spelled "." 8 9 none,
                  .named "field_identifier" 9 10 "field" []],
              .spelled ";" 10 11 none],
          .named "identifier" 11 12 none [], .spelled "\x7d" 12 13 none]]]

/-- The trees of the shadowing source and of nothing else. -/
def shadowingParser (text : String) : ParseTree :=
  if text = shadowingSource then shadowingReceiver else .blank

theorem ofSource_ends_shadowingReceiver :
    ∃ bindings, (ofSource .empty shadowingSource shadowingReceiver.lower).bindAll =
        .found bindings ∧
      (ofSource .empty shadowingSource shadowingReceiver.lower).Ends #[] ∧
      (ofSource .empty shadowingSource shadowingReceiver.lower).Ends bindings := by
  have grammar : ∀ text, (shadowingParser text).FollowsGrammar := by
    intro text
    unfold shadowingParser
    split <;> decide
  have kinds : ∀ id < shadowingReceiver.lower.nodes.size,
      shadowingReceiver.lower.rawKind id ≠ "impl_item" ∧
        shadowingReceiver.lower.rawKind id ≠ "trait_item" := by decide
  have regular : (shadowingParser shadowingSource).IsRegular := by decide
  refine ofSource_ends .empty grammar shadowingSource regular ?_
  rintro ⟨owner, type, isOwner, -⟩
  rcases isOwner with ⟨isImplementation, -⟩ | ⟨isTrait, -⟩
  · have inRange := Tree.lt_size_of_rawKind (isImplementation.trans_ne (by decide))
    exact (kinds owner inRange).1 isImplementation
  · have inRange := Tree.lt_size_of_rawKind (isTrait.trans_ne (by decide))
    exact (kinds owner inRange).2 isTrait

/-- Whether a token is looked up among the types. -/
def IsTypeName (program : Program) (token : NodeId) : Prop :=
  program.resolveByName token =
    program.resolveType (program.text token) (program.tree.span token).start

theorem resolveByName_eq_endless_iff {token : NodeId} :
    program.resolveByName token = .endless ↔ program.IsTypeName token ∧
      program.text token = "Self" ∧
        program.selfTypeAt (program.tree.span token).start = some "Self" := by
  rw [IsTypeName, ← resolveType_eq_endless_iff]
  constructor
  · intro endless
    have sameEnd := resolveType_of_resolveByName endless
    exact ⟨endless.trans sameEnd.symm, sameEnd⟩
  · rintro ⟨same, endless⟩
    exact same.trans endless

/-- A token that is no declaration's name is bound without end, if it is looked up by its name
without end. -/
theorem binding_eq_endless {token : NodeId} (isLeaf : program.tree.children token = [])
    (isIdentifier : program.tree.kind token = .identifier)
    (unnamed : program.table.namedBy? token = none)
    (endless : program.resolveByName token = .endless) : program.binding token = .endless := by
  have noAccess : program.memberAccess? token = none := by
    rw [Option.eq_none_iff_forall_ne_some]
    intro access accessEq
    rcases memberAccess?_eq_some_iff.mp accessEq with ⟨isField, parentEq, isAccess⟩
    simp [resolveByName, isField, parentKind, parentEq, isAccess] at endless
  have denotes : program.resolveToken #[] token = .endless := by
    rw [resolveToken, resolveTokenWith, unnamed]
    simp only [noAccess, endless]
  rw [binding_of_isName isLeaf isIdentifier, denotes]
  rfl

/-- Binding has no end exactly when some token is looked up by its name without end. -/
theorem not_exists_bindAll_iff {library : Library} (loaded : library.Loaded) {source : String}
    {parsed : ParseTree} (regular : parsed.IsRegular) (grammar : parsed.FollowsGrammar) :
    (¬∃ bindings, (ofSource library source parsed.lower).bindAll = .found bindings) ↔
      ∃ token, parsed.lower.kind token = .identifier ∧
        (ofSource library source parsed.lower).table.namedBy? token = none ∧
          (ofSource library source parsed.lower).resolveByName token = .endless := by
  have collected := collected_ofSource loaded source parsed.lower
  have regularTree : (ofSource library source parsed.lower).tree.Regular := regular.lower grammar
  constructor
  · intro crashes
    by_contra noToken
    apply crashes
    apply exists_bindAll_of_resolvesNames regularTree collected
    intro token isIdentifier unnamed endless
    exact noToken ⟨token, isIdentifier, unnamed, endless⟩
  · rintro ⟨token, isIdentifier, unnamed, endless⟩ bound
    have isLeaf := grammar.leaf token isIdentifier
    have inRange := Tree.lt_size_of_kind (isIdentifier.trans_ne (by decide))
    have notEndless := exists_bindAll_iff.mp bound token inRange
    exact notEndless (binding_eq_endless isLeaf isIdentifier unnamed endless)

end Program

section Compile

variable {library : Library} {indentWidth : Nat} {source : String} {tree : Tree}
  {output : OutputKind}

theorem Analysis.compile_eq (library : Library) (indentWidth : Nat) (source : String) (tree : Tree)
    (output : OutputKind) :
    compile library indentWidth source tree output false =
      (Attempt.orExhausted (Program.ofSource library source tree).bindAll.toOption).map
        fun bindings => ⟨Program.ofSource library source tree, bindings, output, indentWidth⟩ :=
  rfl

theorem Analysis.compile_eq_exhausted_iff :
    compile library indentWidth source tree output false = .error .exhausted ↔
      ¬∃ bindings, (Program.ofSource library source tree).bindAll = .found bindings := by
  rw [compile_eq]
  cases (Program.ofSource library source tree).bindAll <;>
    simp [Search.toOption, Attempt.orExhausted, Except.map]

theorem Analysis.compile_eq_ok_iff {analysis : Analysis} :
    compile library indentWidth source tree output false = .ok analysis ↔
      ∃ bindings, (Program.ofSource library source tree).bindAll = .found bindings ∧
        analysis = ⟨Program.ofSource library source tree, bindings, output, indentWidth⟩ := by
  rw [compile_eq]
  cases (Program.ofSource library source tree).bindAll <;>
    simp [Search.toOption, Attempt.orExhausted, Except.map, eq_comm]

end Compile

/-- The search for what the name of a type denotes has an end, unless the name is `Self` and the
implementation or trait around it is called `Self` too.  Where the parser keeps its promises, an
analysis exhausts the stack exactly when one of its tokens asks for such a type. -/
theorem Analysis.resolveType_ends_iff {library : Library} (loaded : library.Loaded)
    (source : String) {parsed : ParseTree} (regular : parsed.IsRegular)
    (grammar : parsed.FollowsGrammar) (indentWidth : Nat) (output : OutputKind) :
    (∀ (program : Program) (name : String) (offset : Nat),
      ((∃ bound, program.resolveTypeWithin offset bound name ≠ .endless) ↔
        ¬(name = "Self" ∧ program.selfTypeAt offset = some "Self")) ∧
      ∀ bound, 2 ≤ bound →
        program.resolveTypeWithin offset bound name = program.resolveType name offset) ∧
    (compile library indentWidth source parsed.lower output false = .error .exhausted ↔
      ∃ token, parsed.lower.kind token = .identifier ∧
        (Program.ofSource library source parsed.lower).table.namedBy? token = none ∧
        (Program.ofSource library source parsed.lower).IsTypeName token ∧
        (Program.ofSource library source parsed.lower).text token = "Self" ∧
        (Program.ofSource library source parsed.lower).selfTypeAt
          (parsed.lower.span token).start = some "Self") := by
  constructor
  · intro program name offset
    refine ⟨⟨?_, ?_⟩, fun _ enough => Program.resolveTypeWithin_eq_resolveType enough⟩
    · rintro ⟨bound, ends⟩ ⟨rfl, own⟩
      exact ends (Program.resolveTypeWithin_endless own bound)
    · intro notSelf
      exact ⟨2, mt Program.resolveType_eq_endless_iff.mp notSelf⟩
  · rw [compile_eq_exhausted_iff, Program.not_exists_bindAll_iff loaded regular grammar]
    simp only [Program.resolveByName_eq_endless_iff]
    rfl

/-- The tree of `impl Self {}`. -/
def ParseTree.implementationOfSelf : ParseTree :=
  .named "source_file" 0 12 none
    [.named "impl_item" 0 12 none
      [.spelled "impl" 0 4 none, .named "type_identifier" 5 9 "type" [],
        .named "declaration_list" 10 12 "body"
          [.spelled "\x7b" 10 11 none, .spelled "\x7d" 11 12 none]]]

theorem Analysis.resolveType_ends_iff_implementationOfSelf :
    compile .empty 4 "impl Self \x7b\x7d" ParseTree.implementationOfSelf.lower .library false =
        .error .exhausted ↔
      ∃ token, ParseTree.implementationOfSelf.lower.kind token = .identifier ∧
        (Program.ofSource .empty "impl Self \x7b\x7d"
          ParseTree.implementationOfSelf.lower).table.namedBy? token = none ∧
        (Program.ofSource .empty "impl Self \x7b\x7d"
          ParseTree.implementationOfSelf.lower).IsTypeName token ∧
        (Program.ofSource .empty "impl Self \x7b\x7d"
          ParseTree.implementationOfSelf.lower).text token = "Self" ∧
        (Program.ofSource .empty "impl Self \x7b\x7d"
          ParseTree.implementationOfSelf.lower).selfTypeAt
            (ParseTree.implementationOfSelf.lower.span token).start = some "Self" :=
  (resolveType_ends_iff .empty _ (by decide) (by decide) 4 .library).2

/-- An implementation of `Self` exhausts the stack: the search for its own type never comes to an
end. -/
theorem Analysis.compile_implementationOfSelf :
    compile .empty 4 "impl Self \x7b\x7d" ParseTree.implementationOfSelf.lower .library false =
        .error .exhausted ∧
      ∀ bound, (Program.ofSource .empty "impl Self \x7b\x7d"
        ParseTree.implementationOfSelf.lower).resolveTypeWithin 5 bound "Self" = .endless := by
  have endless : (Program.ofSource .empty "impl Self \x7b\x7d"
      ParseTree.implementationOfSelf.lower).bindAll = .endless := by decide +kernel
  constructor
  · rw [compile_eq_exhausted_iff, endless]
    simp
  · intro bound
    exact Program.resolveTypeWithin_endless (by decide +kernel) bound

end SourceLens
