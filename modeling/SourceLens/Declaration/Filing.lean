import SourceLens.Declaration.Table

/-!
# What tables keep

Pushing a declaration adds its identity to one list of the table, the shelf of the declaration, and
leaves all other shelves as they are.  So a table that is filled by pushing alone holds on each shelf
the identities of the declarations that belong there, in the order of the declarations
(`SymbolTable.IsFiled`), and its look-ups select from what was declared.
-/

namespace SourceLens

theorem lookup_cons_eq_ite {κ ν : Type} [DecidableEq κ] (key known : κ) (value : ν)
    (entries : List (κ × ν)) :
    ((known, value) :: entries).lookup key =
      if known = key then some value else entries.lookup key := by
  by_cases same : known = key
  · simp [same]
  · simp [List.lookup_cons, same, beq_eq_false_iff_ne.mpr (Ne.symm same)]

theorem Index.under_file (index : Index) (name other : String) (id : SymbolId) :
    (index.file name id).under other =
      index.under other ++ if name = other then [id] else [] := by
  induction index with
  | nil => by_cases same : name = other <;> simp [file, under, lookup_cons_eq_ite, same]
  | cons entry index ih =>
      rcases entry with ⟨known, ids⟩
      simp only [under] at ih
      by_cases isKnown : known = name
      · subst isKnown
        by_cases same : known = other <;> simp [file, under, lookup_cons_eq_ite, same]
      · by_cases same : known = other
        · subst same
          simp [file, under, isKnown, Ne.symm isKnown]
        · simp [file, under, lookup_cons_eq_ite, isKnown, same, ih]

namespace NodeMap

theorem lookup_insert (map : NodeMap) (node other : NodeId) (id : SymbolId) :
    (map.insert node id).lookup other = if node = other then some id else map.lookup other := by
  induction map with
  | nil => simp [insert, lookup_cons_eq_ite]
  | cons entry map ih =>
      rcases entry with ⟨known, knownId⟩
      by_cases isKnown : known = node
      · subst isKnown
        by_cases same : known = other <;> simp [insert, lookup_cons_eq_ite, same]
      · by_cases same : known = other
        · subst same
          simp [insert, isKnown, Ne.symm isKnown]
        · simp [insert, lookup_cons_eq_ite, isKnown, same, ih]

theorem lookup_insertNew (map : NodeMap) (node other : NodeId) (id : SymbolId) :
    (map.insertNew node id).lookup other =
      (map.lookup other).or (if node = other then some id else none) := by
  unfold insertNew
  by_cases same : node = other
  · subst same
    cases known : map.lookup node <;> simp [known, lookup_insert]
  · split <;> simp [lookup_insert, same]

end NodeMap

/-- The lists in which a table files what it declares. -/
inductive Shelf where
  | free (name : String)
  | members (container : String)
  | lexical
  deriving DecidableEq

/-- The list in which a declaration is filed. -/
def Declaration.shelf (declaration : Declaration) : Shelf :=
  match declaration.place with
  | .free => .free declaration.name
  | .member container => .members container
  | .lexical _ => .lexical

namespace SymbolTable

/-- What a table files in a list. -/
def shelved (table : SymbolTable) : Shelf → List SymbolId
  | .free name => table.freeIds.under name
  | .members container => table.memberIds.under container
  | .lexical => table.lexicalIds

/-- Whether a table holds what pushing its declarations has filed. -/
structure IsFiled (table : SymbolTable) : Prop where
  /-- Identities count up from the base. -/
  numbered : ∀ index declaration, table.declarations[index]? = some declaration →
    declaration.id = table.base + index
  /-- Each shelf holds the identities of what belongs there, in order. -/
  shelved_eq : ∀ shelf, table.shelved shelf =
    (table.select fun declaration => declaration.shelf == shelf).map Declaration.id
  /-- A token leads to the last declaration that it names. -/
  token_eq : ∀ token, table.tokenIds.lookup token =
    (table.declarations.toList.reverse.find? fun declaration =>
      declaration.nameToken == some token).map Declaration.id
  /-- A node leads to the first declaration that it makes. -/
  node_eq : ∀ node, table.nodeIds.lookup node =
    (table.declarations.toList.find? fun declaration =>
      declaration.node == node && declaration.nameToken.isSome).map Declaration.id

section Push

variable (table : SymbolTable) (declaration : Declaration)

theorem fileAt_declarations (name : String) (place : Place) :
    (table.fileAt name place).base = table.base ∧
      (table.fileAt name place).declarations = table.declarations ∧
      (table.fileAt name place).tokenIds = table.tokenIds ∧
      (table.fileAt name place).nodeIds = table.nodeIds := by
  cases place <;> exact ⟨rfl, rfl, rfl, rfl⟩

@[simp]
theorem base_push : (table.push declaration).base = table.base := by
  unfold push
  cases declaration.nameToken <;> exact (table.fileAt_declarations _ _).1

@[simp]
theorem declarations_push :
    (table.push declaration).declarations =
      table.declarations.push (declaration.withId table.nextId) :=
  rfl

theorem shelved_push (shelf : Shelf) :
    (table.push declaration).shelved shelf =
      table.shelved shelf ++ if declaration.shelf = shelf then [table.nextId] else [] := by
  have filed : (table.push declaration).shelved shelf =
      (table.fileAt declaration.name declaration.place).shelved shelf := by
    unfold push
    cases declaration.nameToken <;> cases shelf <;> rfl
  rw [filed]
  cases placeEq : declaration.place <;> cases shelf <;>
    simp [fileAt, shelved, Declaration.shelf, placeEq, Index.under_file]

theorem tokenIds_push (token : NodeId) :
    (table.push declaration).tokenIds.lookup token =
      if declaration.nameToken = some token then some table.nextId
      else table.tokenIds.lookup token := by
  have unfiled := table.fileAt_declarations declaration.name declaration.place
  have sameNext : (table.fileAt declaration.name declaration.place).nextId = table.nextId := by
    rw [nextId, size, unfiled.1, unfiled.2.1]
    rfl
  unfold push
  cases declaration.nameToken with
  | none => simp [unfiled]
  | some own => simp [track, unfiled, sameNext, NodeMap.lookup_insert]

theorem nodeIds_push (node : NodeId) :
    (table.push declaration).nodeIds.lookup node =
      (table.nodeIds.lookup node).or
        (if declaration.node = node ∧ declaration.nameToken.isSome = true then some table.nextId
        else none) := by
  have unfiled := table.fileAt_declarations declaration.name declaration.place
  have sameNext : (table.fileAt declaration.name declaration.place).nextId = table.nextId := by
    rw [nextId, size, unfiled.1, unfiled.2.1]
    rfl
  unfold push
  cases declaration.nameToken with
  | none => simp [unfiled]
  | some own => simp [track, unfiled, sameNext, NodeMap.lookup_insertNew]

theorem select_push (test : Declaration → Bool) :
    (table.push declaration).select test =
      table.select test ++
        if test (declaration.withId table.nextId) then [declaration.withId table.nextId] else [] := by
  unfold select
  rw [declarations_push, Array.filter_push]
  split <;> simp

end Push

theorem isFiled_empty (base : SymbolId) : (empty base).IsFiled := by
  refine ⟨?_, ?_, ?_, ?_⟩
  · intro index declaration found
    simp [empty] at found
  · intro shelf
    cases shelf <;> rfl
  · exact fun token => rfl
  · exact fun node => rfl

/-- Pushing a declaration files its identity with those of its shelf, its token and its node. -/
theorem IsFiled.push {table : SymbolTable} (filed : table.IsFiled) (declaration : Declaration) :
    (table.push declaration).IsFiled := by
  refine ⟨?_, ?_, ?_, ?_⟩
  · intro index other found
    rw [declarations_push, Array.getElem?_push] at found
    rw [base_push]
    split at found
    next last =>
      cases found
      rw [last]
      rfl
    next => exact filed.numbered index other found
  · intro shelf
    rw [shelved_push, select_push, filed.shelved_eq, List.map_append]
    by_cases same : declaration.shelf = shelf
    · have kept : (declaration.withId table.nextId).shelf = shelf := same
      simp [same, kept]
      rfl
    · have kept : (declaration.withId table.nextId).shelf ≠ shelf := same
      simp [same, kept]
  · intro token
    rw [tokenIds_push, declarations_push, Array.toList_push, List.reverse_append, filed.token_eq]
    by_cases named : declaration.nameToken = some token
    · have kept : (declaration.withId table.nextId).nameToken = some token := named
      simp [named, kept]
      rfl
    · have kept : (declaration.withId table.nextId).nameToken ≠ some token := named
      simp [named, kept]
  · intro node
    rw [nodeIds_push, declarations_push, Array.toList_push, List.find?_append, filed.node_eq,
      Option.map_or]
    congr 1
    by_cases made : declaration.node = node ∧ declaration.nameToken.isSome = true
    · have kept : (declaration.withId table.nextId).node = node ∧
        (declaration.withId table.nextId).nameToken.isSome = true := made
      simp [made, kept]
      rfl
    · have kept : ¬((declaration.withId table.nextId).node = node ∧
        (declaration.withId table.nextId).nameToken.isSome = true) := made
      simp [made, kept]

theorem IsFiled.append {table : SymbolTable} (filed : table.IsFiled)
    (declarations : List Declaration) : (table.append declarations).IsFiled := by
  induction declarations generalizing table with
  | nil => exact filed
  | cons declaration declarations ih => exact ih (filed.push declaration)

theorem isFiled_number (base : SymbolId) (declarations : List Declaration) :
    (number base declarations).IsFiled :=
  (isFiled_empty base).append declarations

theorem mem_select_iff {table : SymbolTable} {test : Declaration → Bool}
    {declaration : Declaration} :
    declaration ∈ table.select test ↔
      declaration ∈ table.declarations ∧ test declaration = true := by
  simp [select]

section Lookups

variable {table : SymbolTable} (filed : table.IsFiled) {declaration : Declaration}
include filed

/-- An identity leads to the declaration that it identifies. -/
theorem IsFiled.get?_id (member : declaration ∈ table.declarations) :
    table.get? declaration.id = some declaration := by
  rcases Array.mem_iff_getElem?.mp member with ⟨index, found⟩
  simp [get?, filed.numbered index declaration found, found]

theorem IsFiled.filterMap_get? {declarations : List Declaration}
    (listed : ∀ declaration ∈ declarations, declaration ∈ table.declarations) :
    (declarations.map Declaration.id).filterMap table.get? = declarations := by
  induction declarations with
  | nil => rfl
  | cons declaration declarations ih =>
      have isFound := filed.get?_id (listed declaration List.mem_cons_self)
      rw [List.map_cons, List.filterMap_cons_some isFound, ih]
      exact fun other member => listed other (List.mem_cons_of_mem _ member)

theorem IsFiled.filterMap_shelved (shelf : Shelf) :
    (table.shelved shelf).filterMap table.get? =
      table.select fun declaration => declaration.shelf == shelf := by
  rw [filed.shelved_eq]
  apply filed.filterMap_get?
  intro declaration member
  exact (mem_select_iff.mp member).1

theorem IsFiled.free_eq_select (name : String) :
    table.free name =
      table.select fun declaration => declaration.name == name && declaration.place == .free := by
  refine (filed.filterMap_shelved (.free name)).trans ?_
  refine congrArg table.select (funext fun declaration => ?_)
  rw [Bool.eq_iff_iff]
  cases placeEq : declaration.place <;> simp [Declaration.shelf, placeEq]

theorem IsFiled.mem_free_iff {name : String} :
    declaration ∈ table.free name ↔
      declaration ∈ table.declarations ∧ declaration.name = name ∧ declaration.place = .free := by
  simp [filed.free_eq_select, mem_select_iff]

theorem IsFiled.members_eq_select (container : String) :
    table.members container =
      table.select fun declaration => declaration.place == .member container := by
  refine (filed.filterMap_shelved (.members container)).trans ?_
  refine congrArg table.select (funext fun declaration => ?_)
  rw [Bool.eq_iff_iff]
  cases placeEq : declaration.place <;> simp [Declaration.shelf, placeEq]

theorem IsFiled.mem_members_iff {container : String} :
    declaration ∈ table.members container ↔
      declaration ∈ table.declarations ∧ declaration.place = .member container := by
  simp [filed.members_eq_select, mem_select_iff]

theorem IsFiled.lexical_eq_select :
    table.lexical = table.select fun declaration => declaration.place.isLexical := by
  refine (filed.filterMap_shelved .lexical).trans ?_
  refine congrArg table.select (funext fun declaration => ?_)
  cases placeEq : declaration.place <;> simp [Declaration.shelf, placeEq, Place.isLexical]

theorem IsFiled.mem_lexical_iff :
    declaration ∈ table.lexical ↔
      declaration ∈ table.declarations ∧ declaration.place.isLexical = true := by
  simp [filed.lexical_eq_select, mem_select_iff]

theorem IsFiled.pairwise_declarations :
    table.declarations.toList.Pairwise fun first second => first.id < second.id := by
  rw [List.pairwise_iff_getElem]
  intro index index' inRange inRange' before
  rw [filed.numbered index _ (by simp), filed.numbered index' _ (by simp)]
  exact Nat.add_lt_add_left before _

theorem IsFiled.pairwise_lexical :
    table.lexical.Pairwise fun first second => first.id < second.id := by
  rw [filed.lexical_eq_select, select, Array.toList_filter]
  exact filed.pairwise_declarations.filter _

theorem IsFiled.namedBy?_eq_find? (token : NodeId) :
    table.namedBy? token = table.declarations.toList.reverse.find? fun declaration =>
      declaration.nameToken == some token := by
  rw [namedBy?, filed.token_eq]
  cases found : table.declarations.toList.reverse.find? _ with
  | none => rfl
  | some declaration =>
      exact filed.get?_id (by simpa using List.mem_of_find?_eq_some found)

theorem IsFiled.of_namedBy? {token : NodeId} (named : table.namedBy? token = some declaration) :
    declaration ∈ table.declarations ∧ declaration.nameToken = some token := by
  rw [filed.namedBy?_eq_find?] at named
  have passes := List.find?_some named
  exact ⟨by simpa using List.mem_of_find?_eq_some named, beq_iff_eq.mp passes⟩

theorem IsFiled.nameToken_ne_of_namedBy? {token : NodeId} (unnamed : table.namedBy? token = none)
    (member : declaration ∈ table.declarations) : declaration.nameToken ≠ some token := by
  rw [filed.namedBy?_eq_find?, List.find?_eq_none] at unnamed
  have fails := unnamed declaration (by simpa using member)
  simpa using fails

end Lookups

end SymbolTable

end SourceLens
