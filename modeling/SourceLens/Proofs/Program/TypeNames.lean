import SourceLens.Proofs.Program.Resolution

/-!
# Names of types

`Self` is followed to the type that it stands for, and everything else is looked up directly.  Two
steps are therefore enough, unless the implementation or the trait around the name is itself called
`Self`: then every step leads back to the same question, and no number of steps is enough.
-/

namespace SourceLens

theorem Search.orElse_eq_endless {α : Type} {search next : Search α} :
    search.orElse next = .endless ↔
      search = .endless ∨ search = .absent ∧ next = .endless := by
  cases search <;> simp [orElse]

namespace Program

variable {program : Program} {offset : Nat} {name : String}

theorem resolveTypeWithin_of_ne (named : name ≠ "Self") (bound : Nat) :
    program.resolveTypeWithin offset (bound + 1) name = .ofOption (program.typeNamed name) := by
  rw [resolveTypeWithin, if_neg named]

theorem resolveTypeWithin_self (program : Program) (offset bound : Nat) :
    program.resolveTypeWithin offset (bound + 1) "Self" =
      match program.selfTypeAt offset with
      | some type => program.resolveTypeWithin offset bound type
      | none => .absent := by
  rw [resolveTypeWithin]
  exact if_pos rfl

theorem resolveTypeWithin_endless (own : program.selfTypeAt offset = some "Self") (bound : Nat) :
    program.resolveTypeWithin offset bound "Self" = .endless := by
  induction bound with
  | zero => rfl
  | succ bound ih =>
      rw [resolveTypeWithin_self, own]
      exact ih

/-- The search for a type has an end within two steps or never. -/
theorem resolveTypeWithin_eq_resolveType {bound : Nat} (enough : 2 ≤ bound) :
    program.resolveTypeWithin offset bound name = program.resolveType name offset := by
  obtain ⟨bound, rfl⟩ := Nat.exists_eq_add_of_le' enough
  rw [resolveType]
  by_cases isSelf : name = "Self"
  · subst isSelf
    rw [resolveTypeWithin_self, resolveTypeWithin_self]
    cases own : program.selfTypeAt offset with
    | none => rfl
    | some type =>
        by_cases again : type = "Self"
        · subst again
          simp only [resolveTypeWithin_endless own]
        · simp only [resolveTypeWithin_of_ne again]
  · rw [resolveTypeWithin_of_ne isSelf, resolveTypeWithin_of_ne isSelf]

theorem resolveType_eq_endless_iff :
    program.resolveType name offset = .endless ↔
      name = "Self" ∧ program.selfTypeAt offset = some "Self" := by
  constructor
  · intro endless
    rw [resolveType] at endless
    by_cases isSelf : name = "Self"
    · subst isSelf
      rw [resolveTypeWithin_self] at endless
      split at endless
      next type own =>
        by_cases again : type = "Self"
        · exact ⟨rfl, again ▸ own⟩
        · rw [resolveTypeWithin_of_ne again] at endless
          exact absurd endless (Search.ofOption_ne_endless _)
      next => cases endless
    · rw [resolveTypeWithin_of_ne isSelf] at endless
      exact absurd endless (Search.ofOption_ne_endless _)
  · rintro ⟨rfl, own⟩
    exact resolveTypeWithin_endless own 2

/-- Looking up a token by its name has no end only where a type is looked up without end. -/
theorem resolveType_of_resolveByName {token : NodeId}
    (endless : program.resolveByName token = .endless) :
    program.resolveType (program.text token) (program.tree.span token).start = .endless := by
  have ended : ∀ option : Option Declaration, Search.ofOption option ≠ .endless :=
    Search.ofOption_ne_endless
  unfold resolveByName at endless
  split at endless
  · exact absurd endless (ended _)
  · exact endless
  · rw [resolveTypeToken, Search.orElse_eq_endless] at endless
    exact (endless.resolve_left (ended _)).2
  · split at endless
    · exact absurd endless (ended _)
    · exact absurd endless (ended _)
    · cases endless
  · exact absurd endless (ended _)
  · unfold resolveIdentifier at endless
    dsimp only at endless
    split at endless
    · unfold resolvePathPart at endless
      dsimp only at endless
      split at endless
      · split at endless <;> exact absurd endless (ended _)
      · exact (Search.orElse_eq_endless.mp endless).resolve_right fun next => ended _ next.2
    · cases endless
    · split at endless
      · exact (Search.orElse_eq_endless.mp endless).resolve_right fun next => ended _ next.2
      · exact absurd endless (ended _)
  · cases endless

end Program

end SourceLens
