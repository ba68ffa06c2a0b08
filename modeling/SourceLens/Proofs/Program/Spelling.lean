import SourceLens.Proofs.Declaration.Coherence
import SourceLens.Proofs.Program.Binding

/-!
# Bindings respect spelling

A token is bound to a declaration in one of many ways: as the declaration's own name, by scope, among
the free items, as a member of what a path or a type denotes, as a field of what is constructed or
matched, or among the variants.  All of them look for the text of the token, so that what is found has
that text for its name.  The only exception is `Self`, which stands for the name of the type around
it.
-/

namespace SourceLens

namespace Program

variable {program : Program} {name : String} {offset : Nat} {declaration : Declaration}

/-- Whether a name at an offset calls a declaration: by its name, or as `Self` if that is the type
around the offset. -/
def Calls (program : Program) (name : String) (offset : Nat) (declaration : Declaration) : Prop :=
  declaration.name = name ∨ name = "Self" ∧ program.selfTypeAt offset = some declaration.name

theorem name_of_mem_free (member : declaration ∈ program.free name) : declaration.name = name := by
  rcases List.mem_append.mp member with own | foreign
  · exact (program.filed.mem_free_iff.mp own).2.1
  · exact (program.library.filed.mem_free_iff.mp foreign).2.1

theorem name_of_resolveName (found : program.resolveName name offset = some declaration) :
    declaration.name = name := by
  rw [resolveName, Option.or_eq_some_iff] at found
  rcases found with inner | ⟨-, isFree⟩
  · exact beq_iff_eq.mp (List.mem_filter.mp (mem_of_innermost? inner)).2
  · exact name_of_mem_free (List.mem_of_mem_head? isFree)

theorem name_of_memberNamed {container : String} {preference : Preference}
    (found : program.memberNamed container name preference = some declaration) :
    declaration.name = name := by
  rw [memberNamed, Option.or_eq_some_iff] at found
  rcases found with preferred | ⟨-, first⟩
  · exact beq_iff_eq.mp (List.mem_filter.mp (List.mem_of_find?_eq_some preferred)).2
  · exact beq_iff_eq.mp (List.mem_filter.mp (List.mem_of_mem_head? first)).2

theorem name_of_variantNamed (found : program.variantNamed name = some declaration) :
    declaration.name = name := by
  rw [variantNamed, Option.or_eq_some_iff] at found
  rcases found with own | ⟨-, foreign⟩
  · have passes := Array.find?_some own
    exact beq_iff_eq.mp (Bool.and_eq_true_iff.mp passes).2
  · have passes := Array.find?_some foreign
    exact beq_iff_eq.mp (Bool.and_eq_true_iff.mp passes).2

theorem name_of_typeNamed (found : program.typeNamed name = some declaration) :
    declaration.name = name :=
  name_of_mem_free (List.mem_of_find?_eq_some found)

theorem calls_of_resolveType (found : program.resolveType name offset = .found declaration) :
    program.Calls name offset declaration := by
  rw [resolveType] at found
  by_cases isSelf : name = "Self"
  · subst isSelf
    rw [resolveTypeWithin_self] at found
    split at found
    next type own =>
      by_cases again : type = "Self"
      · subst again
        rw [resolveTypeWithin_endless own] at found
        cases found
      · rw [resolveTypeWithin_of_ne again, Search.ofOption_eq_found] at found
        exact .inr ⟨rfl, by rw [own, name_of_typeNamed found]⟩
    next => cases found
  · rw [resolveTypeWithin_of_ne isSelf, Search.ofOption_eq_found] at found
    exact .inl (name_of_typeNamed found)

variable {token : NodeId}

theorem calls_of_resolveTypeToken (found : program.resolveTypeToken token = .found declaration) :
    program.Calls (program.text token) (program.tree.span token).start declaration := by
  rw [resolveTypeToken, Search.orElse_eq_found, Search.ofOption_eq_found] at found
  rcases found with qualified | ⟨-, named⟩
  · split at qualified
    · simp only [Option.bind_eq_bind, Option.bind_eq_some_iff] at qualified
      rcases qualified with ⟨parent, -, path, -, container, -, memberEq⟩
      exact .inl (name_of_memberNamed memberEq)
    · cases qualified
  · exact calls_of_resolveType named

theorem calls_of_resolvePathPart {path : NodeId}
    (found : program.resolvePathPart token path = .found declaration) :
    program.Calls (program.text token) (program.tree.span token).start declaration := by
  rw [resolvePathPart] at found
  split at found
  · split at found
    · simp only [Search.ofOption_eq_found, Option.bind_eq_some_iff] at found
      rcases found with ⟨container, -, memberEq⟩
      exact .inl (name_of_memberNamed memberEq)
    · exact .inl (name_of_resolveName (Search.ofOption_eq_found.mp found))
  · rw [Search.orElse_eq_found, Search.ofOption_eq_found] at found
    rcases found with named | ⟨-, isFree⟩
    · exact calls_of_resolveType named
    · exact .inl (name_of_mem_free (List.mem_of_mem_head? isFree))

theorem calls_of_resolveIdentifier (found : program.resolveIdentifier token = .found declaration) :
    program.Calls (program.text token) (program.tree.span token).start declaration := by
  rw [resolveIdentifier] at found
  split at found
  · exact calls_of_resolvePathPart found
  · cases found
  · split at found
    · rw [Search.orElse_eq_found, Search.ofOption_eq_found] at found
      rcases found with named | ⟨-, variant⟩
      · exact calls_of_resolveType named
      · exact .inl (name_of_variantNamed variant)
    · rw [Search.ofOption_eq_found, Option.or_eq_some_iff] at found
      rcases found with named | ⟨-, variant⟩
      · exact .inl (name_of_resolveName named)
      · exact .inl (name_of_variantNamed variant)

theorem name_of_constructedField? (found : program.constructedField? token = some declaration) :
    declaration.name = program.text token := by
  simp only [constructedField?, Option.bind_eq_bind, Option.bind_eq_some_iff] at found
  rcases found with ⟨type, -, memberEq⟩
  exact name_of_memberNamed memberEq

theorem name_of_matchedField? (found : program.matchedField? token = some declaration) :
    declaration.name = program.text token := by
  simp only [matchedField?, Option.bind_eq_bind, Option.bind_eq_some_iff] at found
  rcases found with ⟨type, -, memberEq⟩
  exact name_of_memberNamed memberEq

/-- What the parser promises about the tokens that names are read from. -/
structure WellSpelled (program : Program) : Prop where
  /-- A receiver is spelled `self`. -/
  receiver : ∀ token, program.tree.rawKind token = "self" → program.tree.children token = [] →
    program.text token = "self"
  /-- The name of a member fills the slot of the member in its access. -/
  member : ∀ token access, program.tree.rawKind token = "field_identifier" →
    program.tree.parent token = some access → program.tree.rawKind access = "field_expression" →
      program.tree.childInRole access .member = some token

section Tokens

variable (spelled : program.WellSpelled)
include spelled

theorem calls_of_resolveByName (isLeaf : program.tree.children token = [])
    (found : program.resolveByName token = .found declaration) :
    program.Calls (program.text token) (program.tree.span token).start declaration := by
  unfold resolveByName at found
  split at found
  case h_1 isSelf =>
    rw [spelled.receiver token isSelf isLeaf]
    exact .inl (name_of_resolveName (Search.ofOption_eq_found.mp found))
  case h_2 => exact calls_of_resolveType found
  case h_3 => exact calls_of_resolveTypeToken found
  case h_4 =>
    split at found
    · exact .inl (name_of_constructedField? (Search.ofOption_eq_found.mp found))
    · exact .inl (name_of_matchedField? (Search.ofOption_eq_found.mp found))
    · cases found
  case h_5 => exact .inl (name_of_resolveName (Search.ofOption_eq_found.mp found))
  case h_6 => exact calls_of_resolveIdentifier found
  case h_7 => cases found

theorem name_of_accessedMember {typeOf : NodeId → Search TypeText} {access : NodeId}
    (isAccess : program.memberAccess? token = some access)
    (found : program.accessedMember typeOf access = .found declaration) :
    declaration.name = program.text token := by
  rcases memberAccess?_eq_some_iff.mp isAccess with ⟨isField, parentEq, accessKind⟩
  have slot := spelled.member token access isField parentEq accessKind
  unfold accessedMember at found
  split at found
  next receiver member _ memberEq =>
    cases slot.symm.trans memberEq
    rcases Search.bind_eq_found.mp found with ⟨type, -, memberNamed⟩
    exact name_of_memberNamed (Search.ofOption_eq_found.mp memberNamed)
  next => cases found

end Tokens

/-- A token that names a declaration of the buffer spells its name, or is the keyword of a
receiver. -/
theorem text_of_namedBy? {library : Library} {source : String} {tree : Tree}
    (named : (ofSource library source tree).table.namedBy? token = some declaration) :
    declaration.name = (ofSource library source tree).text token ∨
      declaration.name = "self" ∧ tree.rawKind token = "self" := by
  rcases (ofSource library source tree).filed.of_namedBy? named with ⟨member, nameTokenEq⟩
  have lists := SymbolTable.lists_ofDocuments library.table.size [⟨.source, source, tree⟩]
  rcases lists.declares declaration member with ⟨document, isBuffer, ⟨place, -, writes⟩, -⟩
  cases List.mem_singleton.mp isBuffer
  cases writes with
  | named nameEq placeEq =>
      cases nameTokenEq.symm.trans placeEq
      exact .inl nameEq
  | positional _ unnamed => cases nameTokenEq.symm.trans unnamed
  | receiver isReceiver isKeyword placeEq =>
      cases nameTokenEq.symm.trans placeEq
      exact .inr ⟨isReceiver.1, isKeyword⟩

theorem calls_of_resolveTokenWith {library : Library} {source : String} {tree : Tree}
    (spelled : (ofSource library source tree).WellSpelled) {typeOf : NodeId → Search TypeText}
    (isLeaf : tree.children token = [])
    (found : (ofSource library source tree).resolveTokenWith typeOf token = .found declaration) :
    (ofSource library source tree).Calls ((ofSource library source tree).text token)
      (tree.span token).start declaration := by
  unfold resolveTokenWith at found
  split at found
  next named =>
    cases found
    rcases text_of_namedBy? named with nameEq | ⟨nameEq, isKeyword⟩
    · exact .inl nameEq
    · exact .inl (nameEq.trans (spelled.receiver token isKeyword isLeaf).symm)
  next =>
    split at found
    next access isAccess => exact .inl (name_of_accessedMember spelled isAccess found)
    next => exact calls_of_resolveByName spelled isLeaf found

end Program

namespace Analysis

/-- Every token is bound to a declaration whose name is the text of the token, unless the text is
`Self`: then the declaration is called so, or has the name of the type around the token. -/
theorem name_of_known? {library : Library} {indentWidth : Nat} {source : String} {tree : Tree}
    {output : OutputKind} {analysis : Analysis}
    (compiled : compile library indentWidth source tree output false = .ok analysis)
    (spelled : analysis.program.WellSpelled) {token : NodeId} {declaration : Declaration}
    (known : analysis.bindings.known? token = some declaration) :
    (analysis.program.text token ≠ "Self" → declaration.name = analysis.program.text token) ∧
    (analysis.program.text token = "Self" → declaration.name = "Self" ∨
      analysis.program.selfTypeAt (analysis.tree.span token).start = some declaration.name) := by
  rcases compile_eq_ok_iff.mp compiled with ⟨bindings, bound, rfl⟩
  have isLeaf := (Program.isName_of_known bound known).1
  rcases Program.isSound_of_bindAll bound token declaration known with ⟨typeOf, found⟩
  rcases Program.calls_of_resolveTokenWith spelled isLeaf found with sameName | ⟨isSelf, around⟩
  · exact ⟨fun _ => sameName, fun isSelf => .inl (sameName.trans isSelf)⟩
  · exact ⟨fun notSelf => absurd isSelf notSelf, fun _ => .inr around⟩

/-- A structure with a method that takes it apart and puts it together again. -/
def rebuildingSource : String :=
  "struct P\x7bx:i32\x7dimpl P\x7bfn f(self)->Self\x7blet x=self.x;P\x7bx\x7d\x7d\x7d"

/-- The tree of `struct P{x:i32}impl P{fn f(self)->Self{let x=self.x;P{x}}}`. -/
def rebuildingTree : ParseTree :=
  .named "source_file" 0 58 none
    [.named "struct_item" 0 15 none
      [.spelled "struct" 0 6 none, .named "type_identifier" 7 8 "name" [],
        .named "field_declaration_list" 8 15 "body"
          [.spelled "\x7b" 8 9 none,
            .named "field_declaration" 9 14 none
              [.named "field_identifier" 9 10 "name" [], .spelled ":" 10 11 none,
                .named "primitive_type" 11 14 "type" []],
            .spelled "\x7d" 14 15 none]],
      .named "impl_item" 15 58 none
        [.spelled "impl" 15 19 none, .named "type_identifier" 20 21 "type" [],
          .named "declaration_list" 21 58 "body"
            [.spelled "\x7b" 21 22 none,
              .named "function_item" 22 57 none
                [.spelled "fn" 22 24 none, .named "identifier" 25 26 "name" [],
                  .named "parameters" 26 32 "parameters"
                    [.spelled "(" 26 27 none,
                      .named "self_parameter" 27 31 none [.named "self" 27 31 none []],
                      .spelled ")" 31 32 none],
                  .spelled "->" 32 34 none, .named "type_identifier" 34 38 "return_type" [],
                  .named "block" 38 57 "body"
                    [.spelled "\x7b" 38 39 none,
                      .named "let_declaration" 39 52 none
                        [.spelled "let" 39 42 none, .named "identifier" 43 44 "pattern" [],
                          .spelled "=" 44 45 none,
                          .named "field_expression" 45 51 "value"
                            [.named "self" 45 49 "value" [], .spelled "." 49 50 none,
                              .named "field_identifier" 50 51 "field" []],
                          .spelled ";" 51 52 none],
                      .named "struct_expression" 52 56 none
                        [.named "type_identifier" 52 53 "name" [],
                          .named "field_initializer_list" 53 56 "body"
                            [.spelled "\x7b" 53 54 none,
                              .named "shorthand_field_initializer" 54 55 none
                                [.named "identifier" 54 55 none []],
                              .spelled "\x7d" 55 56 none]],
                      .spelled "\x7d" 56 57 none]],
              .spelled "\x7d" 57 58 none]]]

/-- The program of the rebuilding method. -/
def rebuildingProgram : Program :=
  .ofSource .empty rebuildingSource rebuildingTree.lower

/-- What the tokens of the rebuilding method are bound to. -/
def rebuildingBindings : Bindings :=
  rebuildingProgram.bindAll.toOption.getD #[]

/-- The analysis of the rebuilding method. -/
def rebuildingAnalysis : Analysis :=
  ⟨rebuildingProgram, rebuildingBindings, .library, 4⟩

theorem bindAll_rebuildingProgram : rebuildingProgram.bindAll = .found rebuildingBindings := by
  decide +kernel

theorem compile_rebuildingTree :
    compile .empty 4 rebuildingSource rebuildingTree.lower .library false =
      .ok rebuildingAnalysis :=
  compile_eq_ok_iff.mpr ⟨rebuildingBindings, bindAll_rebuildingProgram, rfl⟩

theorem wellSpelled_rebuildingProgram : rebuildingProgram.WellSpelled := by
  have each : ∀ token < rebuildingProgram.tree.nodes.size,
      (rebuildingProgram.tree.rawKind token = "self" → rebuildingProgram.text token = "self") ∧
      (rebuildingProgram.tree.rawKind token = "field_identifier" →
        ∀ access ∈ rebuildingProgram.tree.parent token,
          rebuildingProgram.tree.rawKind access = "field_expression" →
            rebuildingProgram.tree.childInRole access .member = some token) := by decide +kernel
  constructor
  · intro token isSelf _
    exact (each token (Tree.lt_size_of_rawKind (isSelf.trans_ne (by decide)))).1 isSelf
  · intro token access isField parentEq
    exact (each token (Tree.lt_size_of_parent parentEq)).2 isField access parentEq

theorem exists_known_rebuilding {token : NodeId}
    (inRange : token < rebuildingProgram.tree.nodes.size)
    (isBound : rebuildingProgram.binding token ≠ .found none) :
    ∃ declaration, rebuildingAnalysis.bindings.known? token = some declaration := by
  rw [(Program.binding_of_bindAll bindAll_rebuildingProgram).2 token inRange] at isBound
  exact Option.ne_none_iff_exists'.mp fun unbound => isBound (congrArg Search.found unbound)

/-- The member after the dot is the field. -/
theorem name_of_known?_rebuilding :
    ∃ field, rebuildingAnalysis.bindings.known? 35 = some field ∧ field.name = "x" := by
  rcases @exists_known_rebuilding 35 (by decide +kernel) (by decide +kernel) with ⟨field, isField⟩
  have text : rebuildingAnalysis.program.text 35 = "x" := by decide +kernel
  have named := (name_of_known? compile_rebuildingTree wellSpelled_rebuildingProgram isField).1
  exact ⟨field, isField, (named (by simp [text])).trans text⟩

end Analysis

end SourceLens
