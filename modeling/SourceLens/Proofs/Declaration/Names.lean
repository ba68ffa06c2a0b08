import SourceLens.Proofs.Declaration.Variables

/-!
# Where names are written

A declaration has one location, in the document that makes it.  The text there is its name, with two
exceptions: the name of a positional field is its position, written nowhere, and the name of a
receiver is taken for granted.

Each kind of declaration finds out on its own what it belongs to and where it is looked up.  The two
agree: whatever the place of a declaration, its symbol says that it belongs to the container in which
the place looks it up.
-/

namespace SourceLens.Document

variable {document : Document} {node : NodeId} {declaration : Declaration}

/-- Whether a declaration is a field without a name, known by its position. -/
def IsPositional (document : Document) (declaration : Declaration) : Prop :=
  declaration.symbol.kind = .field ∧
    document.tree.rawKind declaration.node = "ordered_field_declaration_list"

/-- Whether a declaration is the receiver of a method. -/
def IsReceiver (document : Document) (declaration : Declaration) : Prop :=
  declaration.name = "self" ∧ document.tree.rawKind declaration.node = "self_parameter"

/-- How a declaration is written in a document, with the token at its location. -/
inductive Writes (document : Document) (declaration : Declaration) (token : NodeId) : Prop where
  /-- The token spells its name. -/
  | named (name_eq : declaration.name = document.text token)
      (nameToken_eq : declaration.nameToken = document.nameToken? token)
  /-- The token is the type of a positional field. -/
  | positional (isPositional : document.IsPositional declaration)
      (nameToken_eq : declaration.nameToken = none)
  /-- The token is the keyword of a receiver. -/
  | receiver (isReceiver : document.IsReceiver declaration)
      (isKeyword : document.tree.rawKind token = "self")
      (nameToken_eq : declaration.nameToken = document.nameToken? token)

/-- Whether a declaration is written in a document and belongs to the container of its place. -/
structure Declares (document : Document) (declaration : Declaration) : Prop where
  /-- It is written at its only location. -/
  located : ∃ token, declaration.symbol.locations = [⟨document.id, document.tree.span token⟩] ∧
    document.Writes declaration token
  /-- It belongs to the container of its place. -/
  container_eq : declaration.symbol.container = declaration.place.container?

/-- Whether a placement files an item with what it belongs to. -/
def IsConsistent (placement : Placement) : Prop :=
  placement.container = placement.place.container?

theorem isConsistent_itemPlacement (document : Document) (node : NodeId) :
    IsConsistent (document.itemPlacement node) := by
  unfold itemPlacement
  cases document.surroundings node <;> rfl

theorem isConsistent_typePlacement (document : Document) (node : NodeId) :
    IsConsistent (document.typePlacement node) := by
  unfold typePlacement
  cases document.surroundings node <;> rfl

theorem isConsistent_modulePlacement (document : Document) (node : NodeId) :
    IsConsistent (document.modulePlacement node) := by
  unfold modulePlacement
  cases document.surroundings node <;> rfl

theorem declares_item (document : Document) (node nameNode : NodeId) {place : Place}
    {symbol : Symbol} (implementsTrait : Bool) (belongs : symbol.container = place.container?) :
    document.Declares { document.item node nameNode place symbol with
      implementsTrait := implementsTrait } :=
  ⟨⟨nameNode, rfl, .named rfl rfl⟩, belongs⟩

theorem declares_patternVariable (document : Document) (use : PatternUse) (isLone : Bool)
    (token : NodeId) : document.Declares (document.patternVariable use isLone token) :=
  ⟨⟨token, rfl, .named rfl rfl⟩, rfl⟩

/-- What a node declares under its own name, one thing at most. -/
theorem declares_of_mem_single
    (member : (∃ keyword, declaration ∈ document.constants node keyword) ∨
      declaration ∈ document.functions node ∨ declaration ∈ document.fields node ∨
      declaration ∈ document.variants node ∨ declaration ∈ document.modules node) :
    document.Declares declaration := by
  simp only [functions, fields, variants, constants, modules] at member
  rcases member with ⟨keyword, member⟩ | member | member | member | member
  all_goals
    split at member <;> simp only [List.not_mem_nil, List.mem_singleton] at member
    rw [member]
  · exact declares_item _ _ _ _ (document.isConsistent_itemPlacement node)
  · exact declares_item _ _ _ _ (document.isConsistent_itemPlacement node)
  · exact declares_item _ _ _ _ rfl
  · exact declares_item _ _ _ _ rfl
  · exact declares_item _ _ _ _ (document.isConsistent_modulePlacement node)

theorem declares_of_mem_positionalFields {owner : String}
    (member : declaration ∈ document.positionalFields node owner) :
    document.Declares declaration := by
  unfold positionalFields at member
  split at member
  · cases member
  · split at member
    next body _ isList =>
      rcases List.mem_mapIdx.mp member with ⟨index, inRange, rfl⟩
      exact ⟨⟨_, rfl, .positional ⟨rfl, beq_iff_eq.mp isList⟩ rfl⟩, rfl⟩
    next => cases member

theorem declares_of_mem_types {kind : TypeKind} (member : declaration ∈ document.types node kind) :
    document.Declares declaration := by
  unfold types at member
  split at member
  · cases member
  · rcases List.mem_cons.mp member with rfl | member
    · exact declares_item _ _ _ _ (document.isConsistent_typePlacement node)
    · exact declares_of_mem_positionalFields member

theorem declares_of_mem_variablesOf {use : PatternUse}
    (member : declaration ∈ document.variablesOf node use) : document.Declares declaration := by
  rcases mem_variablesOf_iff.mp member with ⟨pattern, token, -, -, rfl⟩
  exact declares_patternVariable ..

theorem declares_of_mem_receivers (isParameter : document.tree.rawKind node = "self_parameter")
    (member : declaration ∈ document.receivers node) : document.Declares declaration := by
  unfold receivers at member
  split at member
  · cases member
  next token tokenEq =>
    have isKeyword : document.tree.rawKind token = "self" := by
      simpa using List.find?_some tokenEq
    rw [List.mem_singleton.mp member]
    exact ⟨⟨token, rfl, .receiver ⟨rfl, isParameter⟩ isKeyword rfl⟩, rfl⟩

theorem declares_of_mem_closureParameters (member : declaration ∈ document.closureParameters node) :
    document.Declares declaration := by
  unfold closureParameters at member
  split at member
  · cases member
  · simp only [List.mem_flatMap, patternVariables, List.mem_map] at member
    rcases member with ⟨pattern, -, token, -, rfl⟩
    exact declares_patternVariable ..

theorem declares_of_mem_loopVariables (member : declaration ∈ document.loopVariables node) :
    document.Declares declaration := by
  unfold loopVariables at member
  split at member
  · cases member
  · exact declares_of_mem_variablesOf member

/-- Every declaration of a node is written in the document and belongs to the container of its
place. -/
theorem declares_of_mem_declarationsAt (member : declaration ∈ document.declarationsAt node) :
    document.Declares declaration := by
  have single := @declares_of_mem_single document node declaration
  unfold declarationsAt at member
  split at member
  · exact single (by simp [member])
  · exact single (by simp [member])
  · exact declares_of_mem_types member
  · exact declares_of_mem_types member
  · exact declares_of_mem_types member
  · exact declares_of_mem_types member
  · exact declares_of_mem_types member
  · exact single (by simp [member])
  · exact single (by simp [member])
  · exact single (.inl ⟨_, member⟩)
  · exact single (.inl ⟨_, member⟩)
  · exact single (by simp [member])
  · exact declares_of_mem_variablesOf member
  · exact declares_of_mem_variablesOf member
  case h_15 isParameter => exact declares_of_mem_receivers isParameter member
  · exact declares_of_mem_closureParameters member
  · exact declares_of_mem_loopVariables member
  · exact declares_of_mem_variablesOf member
  · exact declares_of_mem_variablesOf member
  · cases member

theorem declares_of_mem_declarations (member : declaration ∈ document.declarations) :
    document.Declares declaration := by
  rcases mem_declarations_iff.mp member with ⟨node, -, member⟩
  exact declares_of_mem_declarationsAt member

/-- Identities do not matter to how a declaration is written. -/
theorem Declares.withId (declares : document.Declares declaration) (id : SymbolId) :
    document.Declares (declaration.withId id) := by
  rcases declares with ⟨⟨token, locationsEq, writes⟩, containerEq⟩
  refine ⟨⟨token, locationsEq, ?_⟩, containerEq⟩
  cases writes with
  | named nameEq nameTokenEq => exact .named nameEq nameTokenEq
  | positional isPositional nameTokenEq => exact .positional isPositional nameTokenEq
  | receiver isReceiver isKeyword nameTokenEq => exact .receiver isReceiver isKeyword nameTokenEq

end SourceLens.Document
