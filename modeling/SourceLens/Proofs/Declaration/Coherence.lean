import SourceLens.Program
import SourceLens.Proofs.Declaration.Names
import SourceLens.Tree.Parsed
import Mathlib.Data.List.Induction
import Mathlib.Data.List.Nodup

/-!
# Coherent tables

A table is filled document by document, and in each document push by push.  However many documents it
takes in, its identities count up from the base, every one of them is filed once in one of its three
maps, under the name or the container that its symbol carries, and a declaration is written where its
location says.

The identities of a buffer start where those of its library end, so that an identity leads to a
declaration of the table that it belongs to.
-/

namespace SourceLens

namespace Index

theorem ids_file (index : Index) (name : String) (id : SymbolId) :
    (index.file name id).ids.Perm (index.ids ++ [id]) := by
  induction index with
  | nil => exact .refl _
  | cons entry index ih =>
      rcases entry with ⟨known, ids⟩
      by_cases isKnown : known = name
      · -- The identity lands in front of those of all later names.
        have moved : (ids ++ ([id] ++ Index.ids index)).Perm (ids ++ (Index.ids index ++ [id])) :=
          List.perm_append_comm.append_left ids
        simpa [file, isKnown, Index.ids] using moved
      · simpa [file, isKnown, Index.ids] using ih.append_left ids

theorem mem_names_file {index : Index} {name other : String} {id : SymbolId} :
    other ∈ (index.file name id).names ↔ other ∈ index.names ∨ other = name := by
  induction index with
  | nil => simp [file, names]
  | cons entry index ih =>
      rcases entry with ⟨known, ids⟩
      by_cases isKnown : known = name
      · simp only [file, isKnown, if_true, names, List.map_cons, List.mem_cons]
        tauto
      · simp only [names] at ih
        simp only [file, isKnown, if_false, names, List.map_cons, List.mem_cons, ih]
        tauto

theorem nodup_names_file {index : Index} (distinct : index.names.Nodup) (name : String)
    (id : SymbolId) : (index.file name id).names.Nodup := by
  induction index with
  | nil => simp [file, names]
  | cons entry index ih =>
      rcases entry with ⟨known, ids⟩
      rcases List.nodup_cons.mp distinct with ⟨isNew, others⟩
      by_cases isKnown : known = name
      · simpa [file, isKnown, names] using distinct
      · rw [file, if_neg isKnown]
        refine List.nodup_cons.mpr ⟨?_, ih others⟩
        intro isOther
        rcases mem_names_file.mp isOther with isOld | isName
        · exact isNew isOld
        · exact isKnown isName

end Index

namespace SymbolTable

variable {table : SymbolTable} {documents : List Document} {declaration : Declaration}

/-- All that a table files, in its three maps. -/
def filedIds (table : SymbolTable) : List SymbolId :=
  table.freeIds.ids ++ table.memberIds.ids ++ table.lexicalIds

/-- The table of some documents, taken in one after the other. -/
def ofDocuments (base : SymbolId) (documents : List Document) : SymbolTable :=
  documents.foldl (fun table document => table.append document.declarations) (empty base)

/-- Whether a table of some documents can be relied upon. -/
structure Coherent (table : SymbolTable) (documents : List Document) : Prop where
  /-- The identities count up from the base, and lead to what they identify. -/
  numbered : ∀ (index : Nat) (declaration : Declaration),
    table.declarations[index]? = some declaration →
      declaration.id = table.base + index ∧ table.get? (table.base + index) = some declaration
  /-- No name and no container has two entries. -/
  distinct : table.freeIds.names.Nodup ∧ table.memberIds.names.Nodup
  /-- Over all entries of the three maps, every identity is filed exactly once. -/
  filed_once : table.filedIds.Perm (List.range' table.base table.size)
  /-- Free items have the name under which they are filed, and no container. -/
  free : ∀ name, ∀ id ∈ table.freeIds.under name, ∃ declaration,
    table.get? id = some declaration ∧ declaration.name = name ∧
      declaration.symbol.container = none
  /-- Members have the container under which they are filed. -/
  members : ∀ container, ∀ id ∈ table.memberIds.under container, ∃ declaration,
    table.get? id = some declaration ∧ declaration.symbol.container = some container
  /-- Under each key, identities are filed in the order of the declarations. -/
  increasing : ∀ shelf, (table.shelved shelf).Pairwise fun first second => first < second
  /-- A token names a declaration of the table. -/
  named : ∀ token id, table.tokenIds.lookup token = some id →
    table.base ≤ id ∧ id < table.base + table.size
  /-- A node makes a declaration of the table. -/
  declared : ∀ node id, table.nodeIds.lookup node = some id →
    table.base ≤ id ∧ id < table.base + table.size
  /-- The only location of a declaration shows its name. -/
  spelled : ∀ declaration ∈ table.declarations, ∃ document ∈ documents, ∃ span,
    declaration.symbol.locations = [⟨document.id, span⟩] ∧
      (¬document.IsPositional declaration → ¬document.IsReceiver declaration →
        (Text.slice? document.source span.start span.stop).getD "" = declaration.name)

/-- Whether every identity of a table is filed once, under keys of which there is one entry each. -/
structure FilesOnce (table : SymbolTable) : Prop where
  distinct : table.freeIds.names.Nodup ∧ table.memberIds.names.Nodup
  perm : table.filedIds.Perm (List.range' table.base table.size)

theorem filesOnce_empty (base : SymbolId) : (empty base).FilesOnce :=
  ⟨⟨List.nodup_nil, List.nodup_nil⟩, .refl _⟩

theorem maps_push (table : SymbolTable) (declaration : Declaration) :
    (table.push declaration).freeIds =
        (table.fileAt declaration.name declaration.place).freeIds ∧
      (table.push declaration).memberIds =
        (table.fileAt declaration.name declaration.place).memberIds ∧
      (table.push declaration).lexicalIds =
        (table.fileAt declaration.name declaration.place).lexicalIds := by
  unfold push
  cases declaration.nameToken <;> exact ⟨rfl, rfl, rfl⟩

/-- A push files the next identity, and nothing else. -/
theorem filedIds_push (table : SymbolTable) (declaration : Declaration) :
    (table.push declaration).filedIds.Perm (table.filedIds ++ [table.nextId]) := by
  rcases table.maps_push declaration with ⟨freeEq, membersEq, lexicalEq⟩
  rw [filedIds, freeEq, membersEq, lexicalEq, filedIds]
  cases declaration.place with
  | free =>
      have filed := table.freeIds.ids_file declaration.name table.nextId
      have moved : ((table.freeIds.ids ++ [table.nextId]) ++
          (table.memberIds.ids ++ table.lexicalIds)).Perm
          (table.freeIds.ids ++ (table.memberIds.ids ++ table.lexicalIds) ++ [table.nextId]) := by
        rw [List.append_assoc, List.append_assoc]
        exact List.perm_append_comm.append_left _
      simpa [fileAt] using (filed.append_right (table.memberIds.ids ++ table.lexicalIds)).trans moved
  | member container =>
      have filed := table.memberIds.ids_file container table.nextId
      have moved : ((table.memberIds.ids ++ [table.nextId]) ++ table.lexicalIds).Perm
          (table.memberIds.ids ++ table.lexicalIds ++ [table.nextId]) := by
        rw [List.append_assoc, List.append_assoc]
        exact List.perm_append_comm.append_left _
      simpa [fileAt] using
        ((filed.append_right table.lexicalIds).trans moved).append_left table.freeIds.ids
  | lexical scope => simp [fileAt]

theorem FilesOnce.push (once : table.FilesOnce) (declaration : Declaration) :
    (table.push declaration).FilesOnce := by
  rcases table.maps_push declaration with ⟨freeEq, membersEq, -⟩
  constructor
  · rw [freeEq, membersEq]
    rcases once.distinct with ⟨names, containers⟩
    cases declaration.place with
    | free => exact ⟨Index.nodup_names_file names _ _, containers⟩
    | member container => exact ⟨names, Index.nodup_names_file containers _ _⟩
    | lexical scope => exact ⟨names, containers⟩
  · have grown : (table.push declaration).size = table.size + 1 := by simp [size]
    refine (filedIds_push table declaration).trans ?_
    rw [base_push, grown, List.range'_concat, Nat.one_mul]
    exact once.perm.append_right _

theorem FilesOnce.append (once : table.FilesOnce) (declarations : List Declaration) :
    (table.append declarations).FilesOnce := by
  induction declarations generalizing table with
  | nil => exact once
  | cons declaration declarations ih => exact ih (once.push declaration)

section Filed

variable (filed : table.IsFiled)
include filed

theorem IsFiled.exists_index (member : declaration ∈ table.declarations) :
    ∃ index < table.size, table.declarations[index]? = some declaration ∧
      declaration.id = table.base + index := by
  rcases Array.mem_iff_getElem?.mp member with ⟨index, found⟩
  have inRange := (Array.getElem?_eq_some_iff.mp found).1
  exact ⟨index, inRange, found, filed.numbered index declaration found⟩

theorem IsFiled.id_bounds (member : declaration ∈ table.declarations) :
    table.base ≤ declaration.id ∧ declaration.id < table.base + table.size := by
  rcases filed.exists_index member with ⟨index, inRange, -, idEq⟩
  rw [idEq]
  exact ⟨Nat.le_add_right _ _, Nat.add_lt_add_left inRange _⟩

/-- An identity leads to the declaration that it identifies. -/
theorem IsFiled.get?_eq_some_iff {id : SymbolId} :
    table.get? id = some declaration ↔
      declaration ∈ table.declarations ∧ declaration.id = id := by
  constructor
  · intro found
    simp only [get?, Option.ite_none_right_eq_some] at found
    rcases found with ⟨notBefore, found⟩
    have idEq := filed.numbered _ _ found
    exact ⟨Array.mem_of_getElem? found, idEq.trans (Nat.add_sub_cancel' notBefore)⟩
  · rintro ⟨member, rfl⟩
    exact filed.get?_id member

theorem IsFiled.pairwise_shelved (shelf : Shelf) :
    (table.shelved shelf).Pairwise fun first second => first < second := by
  rw [filed.shelved_eq, List.pairwise_map, select, Array.toList_filter]
  exact filed.pairwise_declarations.filter _

/-- What is filed on a shelf leads to a declaration that belongs there. -/
theorem IsFiled.exists_of_mem_shelved {shelf : Shelf} {id : SymbolId}
    (member : id ∈ table.shelved shelf) :
    ∃ declaration ∈ table.declarations,
      table.get? id = some declaration ∧ declaration.shelf = shelf := by
  rw [filed.shelved_eq] at member
  rcases List.mem_map.mp member with ⟨declaration, selected, rfl⟩
  rcases mem_select_iff.mp selected with ⟨listed, belongs⟩
  exact ⟨declaration, listed, filed.get?_id listed, beq_iff_eq.mp belongs⟩

end Filed

/-- Whether a table has filed declarations that some documents make. -/
structure Lists (table : SymbolTable) (documents : List Document) : Prop where
  filed : table.IsFiled
  once : table.FilesOnce
  declares : ∀ declaration ∈ table.declarations, ∃ document ∈ documents,
    document.Declares declaration

/-- Taking in a document keeps what is listed and adds what the document declares. -/
theorem Lists.append (lists : table.Lists documents) (document : Document) :
    (table.append document.declarations).Lists (documents ++ [document]) where
  filed := lists.filed.append _
  once := lists.once.append _
  declares := by
    intro declaration member
    rcases mem_append_iff.mp member with listed | ⟨index, unnumbered, found, rfl⟩
    · rcases lists.declares declaration listed with ⟨earlier, isEarlier, declares⟩
      exact ⟨earlier, List.mem_append_left _ isEarlier, declares⟩
    · have declares := Document.declares_of_mem_declarations (List.mem_of_getElem? found)
      exact ⟨document, by simp, declares.withId _⟩

theorem lists_ofDocuments (base : SymbolId) (documents : List Document) :
    (ofDocuments base documents).Lists documents := by
  -- The documents are taken in from the front, so the induction removes the last one.
  induction documents using List.reverseRecOn with
  | nil => exact ⟨isFiled_empty base, filesOnce_empty base, by simp [ofDocuments, empty]⟩
  | append_singleton documents document ih =>
      rw [ofDocuments, List.foldl_append]
      exact ih.append document

theorem base_ofDocuments (base : SymbolId) (documents : List Document) :
    (ofDocuments base documents).base = base := by
  induction documents using List.reverseRecOn with
  | nil => rfl
  | append_singleton documents document ih =>
      rw [ofDocuments, List.foldl_append]
      exact (base_append _ _).trans ih

theorem Lists.container_eq (lists : table.Lists documents)
    (member : declaration ∈ table.declarations) :
    declaration.symbol.container = declaration.place.container? := by
  rcases lists.declares declaration member with ⟨document, -, declares⟩
  exact declares.container_eq

theorem Lists.spelled (lists : table.Lists documents) (member : declaration ∈ table.declarations) :
    ∃ document ∈ documents, ∃ span, declaration.symbol.locations = [⟨document.id, span⟩] ∧
      (¬document.IsPositional declaration → ¬document.IsReceiver declaration →
        (Text.slice? document.source span.start span.stop).getD "" = declaration.name) := by
  rcases lists.declares declaration member with ⟨document, isListed, ⟨token, located, writes⟩, -⟩
  refine ⟨document, isListed, document.tree.span token, located, ?_⟩
  intro notPositional notReceiver
  cases writes with
  | named nameEq => exact nameEq.symm
  | positional isPositional => exact absurd isPositional notPositional
  | receiver isReceiver => exact absurd isReceiver notReceiver

/-- Free items and members are filed under what their symbols carry. -/
theorem Lists.carries (lists : table.Lists documents) {shelf : Shelf} {id : SymbolId}
    (member : id ∈ table.shelved shelf) :
    ∃ declaration, table.get? id = some declaration ∧
      (∀ name, shelf = .free name →
        declaration.name = name ∧ declaration.symbol.container = none) ∧
      ∀ container, shelf = .members container →
        declaration.symbol.container = some container := by
  rcases lists.filed.exists_of_mem_shelved member with ⟨declaration, listed, found, rfl⟩
  refine ⟨declaration, found, ?_⟩
  rw [lists.container_eq listed]
  cases placeEq : declaration.place <;> simp [Declaration.shelf, placeEq, Place.container?]

theorem Lists.coherent (lists : table.Lists documents) : table.Coherent documents := by
  have filed := lists.filed
  have inRange : ∀ {found : Option Declaration} {id : SymbolId},
      (∀ declaration ∈ found, declaration ∈ table.declarations) →
        found.map Declaration.id = some id → table.base ≤ id ∧ id < table.base + table.size := by
    intro found id listed isFound
    rcases Option.map_eq_some_iff.mp isFound with ⟨declaration, rfl, rfl⟩
    exact filed.id_bounds (listed declaration rfl)
  refine ⟨?_, lists.once.distinct, lists.once.perm, ?_, ?_, filed.pairwise_shelved, ?_, ?_, ?_⟩
  · intro index declaration found
    have idEq := filed.numbered index declaration found
    exact ⟨idEq, filed.get?_eq_some_iff.mpr ⟨Array.mem_of_getElem? found, idEq⟩⟩
  · intro name id member
    rcases @Lists.carries _ _ lists (.free name) id member with ⟨declaration, found, isFree, -⟩
    exact ⟨declaration, found, isFree name rfl⟩
  · intro container id member
    rcases @Lists.carries _ _ lists (.members container) id member with
      ⟨declaration, found, -, isMember⟩
    exact ⟨declaration, found, isMember container rfl⟩
  · intro token id isFound
    refine inRange ?_ ((filed.token_eq token).symm.trans isFound)
    intro declaration found
    simpa using List.mem_of_find?_eq_some found
  · intro node id isFound
    refine inRange ?_ ((filed.node_eq node).symm.trans isFound)
    intro declaration found
    simpa using List.mem_of_find?_eq_some found
  · intro declaration member
    exact lists.spelled member

end SymbolTable

/-- The table of a library is that of its references. -/
theorem Library.Loaded.exists_ofDocuments {library : Library} (loaded : library.Loaded) :
    ∃ references, library.table = .ofDocuments 0 references := by
  induction loaded with
  | empty => exact ⟨[], rfl⟩
  | @add library loaded name text tree ih =>
      rcases ih with ⟨references, tableEq⟩
      refine ⟨references ++ [⟨.reference library.documents.length, text, tree⟩], ?_⟩
      rw [SymbolTable.ofDocuments, List.foldl_append]
      exact congrArg (SymbolTable.append · _) tableEq

namespace Program

variable {library : Library} {source : String} {tree : Tree}

/-- The identities of a buffer come after all that a library declares. -/
theorem id_bounds_ofSource (source : String) (tree : Tree) {declaration : Declaration}
    (member : declaration ∈ (ofSource library source tree).table.declarations) :
    library.table.size ≤ declaration.id := by
  have notBefore := ((ofSource library source tree).filed.id_bounds member).1
  rwa [ofSource, SymbolTable.base_number] at notBefore

/-- An identity leads to what it identifies, in the buffer or in the library. -/
theorem declaration?_ofSource_eq_some_iff (loaded : library.Loaded) {id : SymbolId}
    {declaration : Declaration} :
    (ofSource library source tree).declaration? id = some declaration ↔
      (declaration ∈ library.table.declarations ∨
        declaration ∈ (ofSource library source tree).table.declarations) ∧ declaration.id = id := by
  have own := (ofSource library source tree).filed
  have baseEq : (ofSource library source tree).table.base = library.table.size :=
    SymbolTable.base_number _ _
  rw [declaration?, or_and_right, ← library.filed.get?_eq_some_iff, ← own.get?_eq_some_iff, baseEq]
  -- An identity that is looked up in the wrong table is out of its range.
  split
  next before =>
    refine (or_iff_left ?_).symm
    intro found
    rcases own.get?_eq_some_iff.mp found with ⟨member, rfl⟩
    exact Nat.not_le.mpr before (id_bounds_ofSource source tree member)
  next notBefore =>
    refine (or_iff_right ?_).symm
    intro found
    rcases library.filed.get?_eq_some_iff.mp found with ⟨member, rfl⟩
    exact notBefore (loaded.id_lt member)

/-- The table of any documents is coherent.  A library and a buffer have such tables, the one of the
buffer starting where the other ends, so that every identity leads to the declaration that it
identifies, and none to a declaration of the other table. -/
theorem coherent_ofDocuments_and_declaration?_ofSource (loaded : library.Loaded) (source : String)
    (tree : Tree) :
    (∀ base documents, (SymbolTable.ofDocuments base documents).base = base ∧
      (SymbolTable.ofDocuments base documents).Coherent documents) ∧
    (∃ references, library.table = .ofDocuments 0 references ∧
      (ofSource library source tree).table =
        .ofDocuments library.table.size [⟨.source, source, tree⟩]) ∧
    (∀ declaration ∈ library.table.declarations, declaration.id < library.table.size) ∧
    (∀ declaration ∈ (ofSource library source tree).table.declarations,
      library.table.size ≤ declaration.id) ∧
    ∀ id declaration, (ofSource library source tree).declaration? id = some declaration ↔
      (declaration ∈ library.table.declarations ∨
        declaration ∈ (ofSource library source tree).table.declarations) ∧
        declaration.id = id := by
  refine ⟨?_, ?_, ?_, ?_, ?_⟩
  · intro base documents
    exact ⟨SymbolTable.base_ofDocuments base documents,
      (SymbolTable.lists_ofDocuments base documents).coherent⟩
  · rcases loaded.exists_ofDocuments with ⟨references, tableEq⟩
    exact ⟨references, tableEq, rfl⟩
  · intro declaration member
    exact loaded.id_lt member
  · intro declaration member
    exact id_bounds_ofSource source tree member
  · intro id declaration
    exact declaration?_ofSource_eq_some_iff loaded

/-- The tree of `struct P;`. -/
def unitStructure : ParseTree :=
  .named "source_file" 0 9 none
    [.named "struct_item" 0 9 none
      [.spelled "struct" 0 6 none, .named "type_identifier" 7 8 "name" [], .spelled ";" 8 9 none]]

/-- A library that declares `P`. -/
def unitLibrary : Library :=
  .add .empty "p" "struct P;" unitStructure.lower

theorem declaration?_ofSource_sameName :
    ∃ foreign own : Declaration, foreign.name = own.name ∧
      (ofSource unitLibrary "struct P;" unitStructure.lower).declaration? 0 = some foreign ∧
      (ofSource unitLibrary "struct P;" unitStructure.lower).declaration? 1 = some own := by
  have listed : ∃ foreign ∈ unitLibrary.table.declarations.toList, ∃ own ∈
      (ofSource unitLibrary "struct P;" unitStructure.lower).table.declarations.toList,
      foreign.name = own.name ∧ foreign.id = 0 ∧ own.id = 1 := by decide +kernel
  rcases listed with ⟨foreign, isForeign, own, isOwn, sameName, first, second⟩
  have leads := (coherent_ofDocuments_and_declaration?_ofSource
    (Library.Loaded.empty.add "p" "struct P;" unitStructure.lower) "struct P;"
    unitStructure.lower).2.2.2.2
  refine ⟨foreign, own, sameName, ?_, ?_⟩
  · exact (leads 0 foreign).mpr ⟨.inl (Array.mem_toList_iff.mp isForeign), first⟩
  · exact (leads 1 own).mpr ⟨.inr (Array.mem_toList_iff.mp isOwn), second⟩

end Program

end SourceLens
