import SourceLens.Program.Typing
import SourceLens.Proofs.Declaration.Variables

/-!
# What names are resolved to

Everything that a token is found to denote was looked up in one of four ways: by scope, among the
free items, among the members of a container, or among the variants.  Variables are found by scope
alone, unless the token is their own name.

A program is collected when its table lists what its buffer declares and its library is told apart by
identity, as in every program that is made from a source and a loaded library.
-/

namespace SourceLens

namespace Search

variable {α β : Type}

@[simp]
theorem ofOption_eq_found {option : Option α} {value : α} :
    ofOption option = found value ↔ option = some value := by
  cases option <;> simp [ofOption]

@[simp]
theorem ofOption_ne_endless (option : Option α) : ofOption option ≠ endless := by
  cases option <;> simp [ofOption]

theorem orElse_eq_found {search next : Search α} {value : α} :
    search.orElse next = found value ↔
      search = found value ∨ search = absent ∧ next = found value := by
  cases search <;> simp [orElse]

theorem bind_eq_found {search : Search α} {next : α → Search β} {value : β} :
    search >>= next = found value ↔ ∃ first, search = found first ∧ next first = found value := by
  cases search <;> simp [bind, andThen]

theorem bind_ne_endless {search : Search α} {next : α → Search β} (first : search ≠ endless)
    (second : ∀ value, search = found value → next value ≠ endless) :
    search >>= next ≠ endless := by
  cases search with
  | found value => exact second value rfl
  | absent => simp [bind, andThen]
  | endless => exact absurd rfl first

end Search

namespace Program

variable {program : Program} {declaration : Declaration}

/-- The name under which a token is looked up by scope. -/
def spelling (program : Program) (token : NodeId) : String :=
  if program.tree.rawKind token = "self" then "self" else program.text token

/-- What is visible at an offset under a name. -/
def visibleAs (program : Program) (name : String) (offset : Nat) : List Declaration :=
  (program.visibleAt offset).filter fun declaration => declaration.name == name

/-- Whether a token is looked up by scope: as `self`, as a field that is named after a variable, or as
an identifier that is neither a type, nor part of a longer path, nor the name of a macro. -/
def isLookedUpByScope (program : Program) (token : NodeId) : Bool :=
  match program.tree.rawKind token with
  | "self" => true
  | "shorthand_field_identifier" => true
  | "identifier" =>
      match program.parentKind token, program.tree.parent token with
      | "scoped_identifier", some path =>
          program.tree.role token == some .member &&
            (program.tree.childInRole path .receiver).isNone
      | "macro_invocation", _ => false
      | _, _ => program.tree.role token != some .type
  | _ => false

/-- How a name at an offset leads to a declaration. -/
inductive Reaches (program : Program) (name : String) (offset : Nat) : Declaration → Prop where
  | visible {declaration : Declaration}
      (inner : innermost? (program.visibleAs name offset) = some declaration) :
      Reaches program name offset declaration
  | free {declaration : Declaration} {item : String} (isFree : declaration ∈ program.free item) :
      Reaches program name offset declaration
  | member {declaration : Declaration} {container : String}
      (isMember : declaration ∈ program.members container) :
      Reaches program name offset declaration
  | variant {declaration : Declaration}
      (listed : declaration ∈ program.table.declarations ∨
        declaration ∈ program.library.table.declarations)
      (isVariant : declaration.symbol.isVariant = true) : Reaches program name offset declaration

theorem mem_of_innermost? {declarations : List Declaration}
    (found : innermost? declarations = some declaration) : declaration ∈ declarations := by
  induction declarations with
  | nil => cases found
  | cons first rest ih =>
      rw [innermost?] at found
      split at found
      next inner innerEq =>
        split at found
        · cases found
          exact List.mem_cons_of_mem _ (ih innerEq)
        · cases found
          exact List.mem_cons_self
      next =>
        cases found
        exact List.mem_cons_self

theorem mem_visibleAs_iff {name : String} {offset : Nat} :
    declaration ∈ program.visibleAs name offset ↔
      declaration ∈ program.table.declarations ∧ declaration.place.isLexical = true ∧
        declaration.isVisibleAt offset = true ∧ declaration.name = name := by
  simp only [visibleAs, visibleAt, List.mem_filter, program.filed.mem_lexical_iff, beq_iff_eq,
    and_assoc]

theorem reaches_of_resolveName {name : String} {offset : Nat}
    (found : program.resolveName name offset = some declaration) :
    program.Reaches name offset declaration := by
  rw [resolveName, Option.or_eq_some_iff] at found
  rcases found with inner | ⟨-, isFree⟩
  · exact .visible inner
  · exact .free (List.mem_of_mem_head? isFree)

theorem mem_members_of_memberNamed {container name : String} {preference : Preference}
    (found : program.memberNamed container name preference = some declaration) :
    declaration ∈ program.members container := by
  rw [memberNamed, Option.or_eq_some_iff] at found
  rcases found with preferred | ⟨-, first⟩
  · exact (List.mem_filter.mp (List.mem_of_find?_eq_some preferred)).1
  · exact (List.mem_filter.mp (List.mem_of_mem_head? first)).1

theorem reaches_of_typeNamed {name item : String} {offset : Nat}
    (found : program.typeNamed item = some declaration) :
    program.Reaches name offset declaration :=
  .free (List.mem_of_find?_eq_some found)

theorem reaches_of_resolveTypeWithin {name item : String} {offset offset' bound : Nat}
    (found : program.resolveTypeWithin offset' bound item = .found declaration) :
    program.Reaches name offset declaration := by
  induction bound generalizing item with
  | zero => cases found
  | succ bound ih =>
      rw [resolveTypeWithin] at found
      split at found
      · split at found
        · exact ih found
        · cases found
      · exact reaches_of_typeNamed (Search.ofOption_eq_found.mp found)

theorem reaches_of_variantNamed {name item : String} {offset : Nat}
    (found : program.variantNamed item = some declaration) :
    program.Reaches name offset declaration := by
  rw [variantNamed, Option.or_eq_some_iff] at found
  rcases found with own | ⟨-, foreign⟩
  · have passes := Array.find?_some own
    simp only [Bool.and_eq_true] at passes
    exact .variant (.inl (Array.mem_of_find?_eq_some own)) passes.1
  · have passes := Array.find?_some foreign
    simp only [Bool.and_eq_true] at passes
    exact .variant (.inr (Array.mem_of_find?_eq_some foreign)) passes.1

theorem reaches_of_resolveTypeToken {token : NodeId} {name : String} {offset : Nat}
    (found : program.resolveTypeToken token = .found declaration) :
    program.Reaches name offset declaration := by
  rw [resolveTypeToken, Search.orElse_eq_found, Search.ofOption_eq_found] at found
  rcases found with qualified | ⟨-, named⟩
  · split at qualified
    · simp only [Option.bind_eq_bind, Option.bind_eq_some_iff] at qualified
      rcases qualified with ⟨parent, -, path, -, container, -, memberEq⟩
      exact .member (mem_members_of_memberNamed memberEq)
    · cases qualified
  · exact reaches_of_resolveTypeWithin named

theorem resolvePathPart_cases {token path : NodeId}
    (found : program.resolvePathPart token path = .found declaration) :
    (program.tree.role token = some .member ∧ program.tree.childInRole path .receiver = none ∧
      program.Reaches (program.text token) (program.tree.span token).start declaration) ∨
    ∀ name offset, program.Reaches name offset declaration := by
  rw [resolvePathPart] at found
  split at found
  next isMember =>
    split at found
    · simp only [Search.ofOption_eq_found, Option.bind_eq_some_iff] at found
      rcases found with ⟨container, -, memberEq⟩
      exact .inr fun _ _ => .member (mem_members_of_memberNamed memberEq)
    next isFirst =>
      exact .inl ⟨beq_iff_eq.mp isMember, isFirst,
        reaches_of_resolveName (Search.ofOption_eq_found.mp found)⟩
  next =>
    rw [Search.orElse_eq_found, Search.ofOption_eq_found] at found
    rcases found with named | ⟨-, isFree⟩
    · exact .inr fun _ _ => reaches_of_resolveTypeWithin named
    · exact .inr fun _ _ => .free (List.mem_of_mem_head? isFree)

section Identifiers

variable {token path : NodeId}

theorem resolveIdentifier_of_path (isPath : program.parentKind token = "scoped_identifier")
    (parentEq : program.tree.parent token = some path) :
    program.resolveIdentifier token = program.resolvePathPart token path := by
  simp [resolveIdentifier, isPath, parentEq]

theorem isLookedUpByScope_of_path (isIdentifier : program.tree.rawKind token = "identifier")
    (isPath : program.parentKind token = "scoped_identifier")
    (parentEq : program.tree.parent token = some path) :
    program.isLookedUpByScope token = (program.tree.role token == some .member &&
      (program.tree.childInRole path .receiver).isNone) := by
  simp [isLookedUpByScope, isIdentifier, isPath, parentEq]

variable (noPath : ∀ path, program.parentKind token = "scoped_identifier" →
    program.tree.parent token = some path → False)
  (noMacro : program.parentKind token = "macro_invocation" → False)
include noPath noMacro

theorem resolveIdentifier_of_plain : program.resolveIdentifier token =
    if program.tree.role token == some .type then
      (program.resolveType (program.text token) (program.tree.span token).start).orElse
        (.ofOption (program.variantNamed (program.text token)))
    else .ofOption ((program.resolveName (program.text token) (program.tree.span token).start).or
      (program.variantNamed (program.text token))) := by
  rw [resolveIdentifier]
  split
  next path isPath parentEq => exact (noPath path isPath parentEq).elim
  next isMacro => exact (noMacro isMacro).elim
  next => rfl

theorem isLookedUpByScope_of_plain (isIdentifier : program.tree.rawKind token = "identifier") :
    program.isLookedUpByScope token = (program.tree.role token != some .type) := by
  simp only [isLookedUpByScope, isIdentifier]

end Identifiers

theorem resolveIdentifier_cases {token : NodeId}
    (isIdentifier : program.tree.rawKind token = "identifier")
    (found : program.resolveIdentifier token = .found declaration) :
    (program.isLookedUpByScope token = true ∧
      program.Reaches (program.text token) (program.tree.span token).start declaration) ∨
    ∀ name offset, program.Reaches name offset declaration := by
  rw [resolveIdentifier] at found
  split at found
  next path isPath parentEq =>
    rw [isLookedUpByScope_of_path isIdentifier isPath parentEq]
    rcases resolvePathPart_cases found with ⟨isMember, isFirst, reaches⟩ | anywhere
    · exact .inl ⟨by simp [isMember, isFirst], reaches⟩
    · exact .inr anywhere
  next => cases found
  next noMacro noPath =>
    rw [isLookedUpByScope_of_plain noPath noMacro isIdentifier]
    split at found
    next =>
      rw [Search.orElse_eq_found, Search.ofOption_eq_found] at found
      rcases found with named | ⟨-, variant⟩
      · exact .inr fun _ _ => reaches_of_resolveTypeWithin named
      · exact .inr fun _ _ => reaches_of_variantNamed variant
    next notType =>
      rw [Search.ofOption_eq_found, Option.or_eq_some_iff] at found
      rcases found with named | ⟨-, variant⟩
      · exact .inl ⟨by simpa using notType, reaches_of_resolveName named⟩
      · exact .inr fun _ _ => reaches_of_variantNamed variant

/-- What a token is found to denote by its name is reached by scope, if the token is looked up so, or
is reached from anywhere. -/
theorem resolveByName_cases {token : NodeId}
    (found : program.resolveByName token = .found declaration) :
    (program.isLookedUpByScope token = true ∧
      program.Reaches (program.spelling token) (program.tree.span token).start declaration) ∨
    ∀ name offset, program.Reaches name offset declaration := by
  unfold resolveByName at found
  split at found
  case h_1 isSelf =>
    rw [spelling, if_pos isSelf]
    exact .inl ⟨by simp [isLookedUpByScope, isSelf],
      reaches_of_resolveName (Search.ofOption_eq_found.mp found)⟩
  case h_2 => exact .inr fun _ _ => reaches_of_resolveTypeWithin found
  case h_3 => exact .inr fun _ _ => reaches_of_resolveTypeToken found
  case h_4 =>
    split at found
    · simp only [Search.ofOption_eq_found, constructedField?, Option.bind_eq_bind,
        Option.bind_eq_some_iff] at found
      rcases found with ⟨type, -, memberEq⟩
      exact .inr fun _ _ => .member (mem_members_of_memberNamed memberEq)
    · simp only [Search.ofOption_eq_found, matchedField?, Option.bind_eq_bind,
        Option.bind_eq_some_iff] at found
      rcases found with ⟨type, -, memberEq⟩
      exact .inr fun _ _ => .member (mem_members_of_memberNamed memberEq)
    · cases found
  case h_5 isShorthand =>
    rw [spelling, if_neg (by simp [isShorthand])]
    exact .inl ⟨by simp [isLookedUpByScope, isShorthand],
      reaches_of_resolveName (Search.ofOption_eq_found.mp found)⟩
  case h_6 isIdentifier =>
    rw [spelling, if_neg (by simp [isIdentifier])]
    exact resolveIdentifier_cases isIdentifier found
  case h_7 => cases found

theorem reaches_of_resolveByName {token : NodeId}
    (found : program.resolveByName token = .found declaration) :
    program.Reaches (program.spelling token) (program.tree.span token).start declaration := by
  rcases resolveByName_cases found with ⟨-, reaches⟩ | anywhere
  · exact reaches
  · exact anywhere _ _

/-- A token that is looked up by scope denotes what its spelling does. -/
theorem resolveByName_of_resolveName {token : NodeId}
    (byScope : program.isLookedUpByScope token = true)
    (found : program.resolveName (program.spelling token) (program.tree.span token).start =
      some declaration) : program.resolveByName token = .found declaration := by
  unfold isLookedUpByScope at byScope
  split at byScope
  next isSelf =>
    rw [spelling, if_pos isSelf] at found
    simp [resolveByName, isSelf, found, Search.ofOption]
  next isShorthand =>
    rw [spelling, if_neg (by simp [isShorthand])] at found
    simp [resolveByName, isShorthand, found, Search.ofOption]
  next isIdentifier =>
    rw [spelling, if_neg (by simp [isIdentifier])] at found
    have byIdentifier : program.resolveByName token = program.resolveIdentifier token := by
      simp only [resolveByName, isIdentifier]
    rw [byIdentifier]
    split at byScope
    next path isPath parentEq =>
      simp only [Bool.and_eq_true, beq_iff_eq, Option.isNone_iff_eq_none] at byScope
      rw [resolveIdentifier_of_path isPath parentEq]
      simp [resolvePathPart, byScope, found, Search.ofOption]
    next => cases byScope
    next noMacro noPath =>
      rw [bne_iff_ne] at byScope
      rw [resolveIdentifier_of_plain noPath noMacro]
      simp [byScope, found, Search.ofOption]
  next => cases byScope

theorem mem_free_iff {name : String} :
    declaration ∈ program.free name ↔
      (declaration ∈ program.table.declarations ∨
        declaration ∈ program.library.table.declarations) ∧
          declaration.name = name ∧ declaration.place = .free := by
  rw [free, List.mem_append, program.filed.mem_free_iff, program.library.filed.mem_free_iff,
    or_and_right]

theorem mem_members_iff {container : String} :
    declaration ∈ program.members container ↔
      (declaration ∈ program.table.declarations ∨
        declaration ∈ program.library.table.declarations) ∧
          declaration.place = .member container := by
  rw [members, List.mem_append, program.filed.mem_members_iff,
    program.library.filed.mem_members_iff, or_and_right]

theorem mem_members_of_accessedMember {typeOf : NodeId → Search TypeText} {access : NodeId}
    (found : program.accessedMember typeOf access = .found declaration) :
    ∃ container, declaration ∈ program.members container := by
  unfold accessedMember at found
  split at found
  · rcases Search.bind_eq_found.mp found with ⟨type, -, memberEq⟩
    exact ⟨_, mem_members_of_memberNamed (Search.ofOption_eq_found.mp memberEq)⟩
  · cases found

/-- A token denotes the declaration that it names, or one that its spelling leads to. -/
theorem resolveTokenWith_cases {typeOf : NodeId → Search TypeText} {token : NodeId}
    (found : program.resolveTokenWith typeOf token = .found declaration) :
    program.table.namedBy? token = some declaration ∨
      program.table.namedBy? token = none ∧
        program.Reaches (program.spelling token) (program.tree.span token).start declaration := by
  unfold resolveTokenWith at found
  split at found
  next named namedEq =>
    cases found
    exact .inl namedEq
  next unnamed =>
    refine .inr ⟨unnamed, ?_⟩
    split at found
    · rcases mem_members_of_accessedMember found with ⟨container, isMember⟩
      exact .member isMember
    · exact reaches_of_resolveByName found

theorem Reaches.listed {name : String} {offset : Nat}
    (reaches : program.Reaches name offset declaration) :
    declaration ∈ program.table.declarations ∨
      declaration ∈ program.library.table.declarations := by
  cases reaches with
  | visible inner => exact .inl (mem_visibleAs_iff.mp (mem_of_innermost? inner)).1
  | free isFree => exact (mem_free_iff.mp isFree).1
  | member isMember => exact (mem_members_iff.mp isMember).1
  | variant listed isVariant => exact listed

/-- Variables are reached by scope alone. -/
theorem Reaches.visible_of_variable {name : String} {offset : Nat}
    (reaches : program.Reaches name offset declaration)
    (isLexical : declaration.place.isLexical = true)
    (isVariable : declaration.symbol.kind = .variable) :
    innermost? (program.visibleAs name offset) = some declaration := by
  cases reaches with
  | visible inner => exact inner
  | free isFree =>
      have placeEq := (mem_free_iff.mp isFree).2.2
      simp [placeEq, Place.isLexical] at isLexical
  | @member container isMember =>
      have placeEq := (mem_members_iff.mp isMember).2
      simp [placeEq, Place.isLexical] at isLexical
  | variant listed isVariant => simp [Symbol.isVariant, isVariable] at isVariant

/-- The table lists what the buffer declares, and the library is told apart by identity. -/
structure Collected (program : Program) : Prop where
  /-- The buffer is the source of a request. -/
  isSource : program.buffer.id = .source
  /-- The table lists what the buffer declares. -/
  table_eq : program.table = .number program.table.base program.buffer.declarations
  /-- The library declares nothing of the buffer's. -/
  foreign : ∀ declaration ∈ program.library.table.declarations, program.isOwn declaration = false

theorem collected_ofSource {library : Library} (loaded : library.Loaded) (source : String)
    (tree : Tree) : (ofSource library source tree).Collected := by
  refine ⟨rfl, ?_, ?_⟩
  · simp [ofSource]
  · intro declaration member
    have before := loaded.id_lt member
    simpa [isOwn, ofSource] using before

/-- What the table lists was declared by a node of the buffer. -/
theorem Collected.mem_declarations_iff (collected : program.Collected) :
    declaration ∈ program.table.declarations ↔
      ∃ (index : Nat) (unnumbered : Declaration),
        program.buffer.declarations[index]? = some unnumbered ∧
          declaration = unnumbered.withId (program.table.base + index) := by
  rw [congrArg SymbolTable.declarations collected.table_eq]
  exact SymbolTable.mem_number_iff

theorem Collected.own (collected : program.Collected)
    (member : declaration ∈ program.table.declarations) :
    ∃ node < program.tree.nodes.size,
      ∃ unnumbered ∈ program.buffer.declarationsAt node, ∃ id, declaration = unnumbered.withId id := by
  rcases collected.mem_declarations_iff.mp member with ⟨index, unnumbered, found, rfl⟩
  rcases Document.mem_declarations_iff.mp (List.mem_of_getElem? found) with
    ⟨node, inRange, declared⟩
  exact ⟨node, inRange, unnumbered, declared, _, rfl⟩

/-- A variable that a statement binds as its lone name, and hands its initial value to. -/
structure LetBinding (program : Program) (declaration : Declaration)
    (statement pattern token initializer : NodeId) : Prop where
  /-- The statement binds a pattern. -/
  isLet : program.tree.rawKind statement = "let_declaration"
  /-- The pattern of the statement. -/
  pattern_eq : program.tree.childInRole statement .pattern = some pattern
  /-- The initial value of the statement. -/
  value_eq : program.tree.childInRole statement .value = some initializer
  /-- The token is the only one that declares a variable of the pattern. -/
  names_eq : program.buffer.patternNames pattern = [token]
  /-- The token names the variable. -/
  nameToken_eq : declaration.nameToken = some token
  /-- The variable is visible from the end of the statement to the end of the block around it. -/
  place_eq : declaration.place = .lexical ((program.buffer.enclosingBlock? statement).map fun block =>
    ⟨min (program.tree.span statement).stop block.stop, block.stop⟩)
  /-- What is bound is a variable. -/
  kind_eq : declaration.symbol.kind = .variable

/-- Only lone names of statements have initial values. -/
theorem Collected.exists_letBinding (collected : program.Collected)
    (member : declaration ∈ program.table.declarations) {initializer : NodeId}
    (valueEq : declaration.initializer = some initializer) :
    ∃ statement pattern token,
      program.LetBinding declaration statement pattern token initializer := by
  rcases collected.own member with ⟨statement, -, unnumbered, declared, id, rfl⟩
  change unnumbered.initializer = some initializer at valueEq
  rcases Document.declarationsAt_cases declared with plain | ⟨-, noValue | ⟨isLet, bound⟩⟩
  · rw [plain.1] at valueEq
    cases valueEq
  · rw [noValue] at valueEq
    cases valueEq
  · rcases Document.mem_variablesOf_iff.mp bound with ⟨pattern, token, patternEq, isName, rfl⟩
    simp only [Document.patternVariable, Option.ite_none_right_eq_some] at valueEq
    rcases valueEq with ⟨isLone, valueEq⟩
    have namesEq : program.buffer.patternNames pattern = [token] := by
      unfold Document.isLoneName at isLone
      split at isLone
      next only onlyEq =>
        rw [onlyEq, List.mem_singleton] at isName
        rw [isName]
        exact onlyEq
      next => cases isLone
    refine ⟨statement, pattern, token, isLet, patternEq, valueEq, namesEq, ?_, rfl, rfl⟩
    simp [Declaration.withId, Document.patternVariable, Document.nameToken?, collected.isSource]

/-- A token that denotes a variable with an initial value is its name, or stands where it is
visible. -/
theorem Collected.named_or_visible (collected : program.Collected)
    {typeOf : NodeId → Search TypeText} {token initializer : NodeId}
    (found : program.resolveTokenWith typeOf token = .found declaration)
    (valueEq : declaration.initializer = some initializer)
    (isOwn : program.isOwn declaration = true) :
    (∃ statement pattern name,
      program.LetBinding declaration statement pattern name initializer) ∧
    (declaration.nameToken = some token ∨
      declaration.isVisibleAt (program.tree.span token).start = true) := by
  rcases resolveTokenWith_cases found with named | ⟨-, reaches⟩
  · rcases program.filed.of_namedBy? named with ⟨member, nameEq⟩
    exact ⟨collected.exists_letBinding member valueEq, .inl nameEq⟩
  · have member : declaration ∈ program.table.declarations := by
      rcases reaches.listed with own | foreign
      · exact own
      · rw [collected.foreign declaration foreign] at isOwn
        cases isOwn
    rcases collected.exists_letBinding member valueEq with ⟨statement, pattern, name, binding⟩
    have isLexical : declaration.place.isLexical = true := by
      rw [binding.place_eq]
      rfl
    have inner := reaches.visible_of_variable isLexical binding.kind_eq
    have visible := (mem_visibleAs_iff.mp (mem_of_innermost? inner)).2.2.1
    exact ⟨⟨statement, pattern, name, binding⟩, .inr visible⟩

end Program

end SourceLens
