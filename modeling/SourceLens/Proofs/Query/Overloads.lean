import Mathlib.Data.List.Forall2
import SourceLens.Query.SignatureHelp

/-!
# Which overloads are listed, and which one is active

The functions that a call may name are scored in their order, and the first one with the highest score is
active.  They are listed by their labels, where equal labels count once, so that the position of the
active one is not its position among the functions.  Each part is described on its own: the list by the
labels and by the first function of each, the choice by what comes before it and behind it.
-/

namespace SourceLens

/-- Erasing repetitions and picking out values are independent of each other. -/
theorem eraseDups_filter {α : Type} [BEq α] [LawfulBEq α] (test : α → Bool) (values : List α) :
    (values.filter test).eraseDups = values.eraseDups.filter test := by
  induction lengthEq : values.length using Nat.strongRecOn generalizing values with
  | ind length ih =>
      cases values with
      | nil => rfl
      | cons value values =>
          have shorter : (values.filter fun other => !other == value).length < length := by
            have := List.length_filter_le (fun other => !other == value) values
            rw [List.length_cons] at lengthEq
            omega
          have others := ih _ shorter (values.filter fun other => !other == value) rfl
          rw [List.filter_filter] at others
          cases passes : test value with
          | true =>
              rw [List.filter_cons_of_pos passes, List.eraseDups_cons, List.eraseDups_cons,
                List.filter_cons_of_pos passes, List.filter_filter, ← others]
              simp only [Bool.and_comm]
          | false =>
              rw [List.filter_cons_of_neg (by simp [passes]), List.eraseDups_cons,
                List.filter_cons_of_neg (by simp [passes]), ← others]
              congr 1
              apply List.filter_congr
              intro other _
              by_cases same : other = value
              · simp [same, passes]
              · simp [same]

/-- A test that is true of a front part passes the same values as far as it goes and overall. -/
theorem takeWhile_eq_filter {α : Type} {test : α → Bool} {values : List α}
    (front : values.Pairwise fun first second => test second = true → test first = true) :
    values.takeWhile test = values.filter test := by
  induction values with
  | nil => rfl
  | cons value values ih =>
      rw [List.pairwise_cons] at front
      cases passes : test value with
      | true => rw [List.takeWhile_cons_of_pos passes, List.filter_cons_of_pos passes, ih front.2]
      | false =>
          have fails : ¬test value = true := by simp [passes]
          have noneLater : values.filter test = [] := by
            rw [List.filter_eq_nil_iff]
            intro other member passed
            exact fails (front.1 other member passed)
          rw [List.takeWhile_cons_of_neg fails, List.filter_cons_of_neg fails, noneLater]

namespace Symbol

variable {arguments : List (Option TypeText)}

/-- The number of arguments of which the type is known to be that of their parameter. -/
def exactMatches (arguments : List (Option TypeText)) (symbol : Symbol) : Nat :=
  (arguments.zip symbol.parameters).countP fun pair => pair.1.isSome && pair.2.type == pair.1

/-- How well a function fits: two points for each exact match and one for each unknown type. -/
def fit (arguments : List (Option TypeText)) (symbol : Symbol) : Nat :=
  2 * symbol.exactMatches arguments + arguments.countP Option.isNone

/-- Whether a function has a parameter for each argument. -/
def Takes (arguments : List (Option TypeText)) (symbol : Symbol) : Prop :=
  arguments.length ≤ symbol.parameters.length

instance (arguments : List (Option TypeText)) (symbol : Symbol) :
    Decidable (symbol.Takes arguments) :=
  inferInstanceAs (Decidable (_ ≤ _))

/-- Whether a function is the first one of the best fit among those that take the arguments. -/
def IsBestFit (arguments : List (Option TypeText)) (symbols : List Symbol) (best : Symbol) : Prop :=
  ∃ before after, symbols = before ++ best :: after ∧ best.Takes arguments ∧
    (∀ other ∈ before, other.Takes arguments → other.fit arguments < best.fit arguments) ∧
    ∀ other ∈ after, other.Takes arguments → other.fit arguments ≤ best.fit arguments

/-- The scores of the arguments add up to the fit. -/
theorem foldr_scores {parameters : List Parameter} (enough : arguments.length ≤ parameters.length) :
    (List.zipWith (fun argument parameter => Parameter.score parameter argument) arguments
      parameters).foldr (· + ·) 0 =
      2 * ((arguments.zip parameters).countP fun pair => pair.1.isSome && pair.2.type == pair.1) +
        arguments.countP Option.isNone := by
  induction arguments generalizing parameters with
  | nil => rfl
  | cons argument arguments ih =>
      cases parameters with
      | nil => simp at enough
      | cons parameter parameters =>
          have later := ih (Nat.le_of_succ_le_succ enough)
          simp only [List.zipWith_cons_cons, List.foldr_cons, List.zip_cons_cons, List.countP_cons,
            later]
          cases argument with
          | none =>
              simp [Parameter.score]
              omega
          | some type =>
              by_cases exact : parameter.type = some type
              · simp [Parameter.score, exact]
                omega
              · simp [Parameter.score, exact]

theorem score?_of_takes {symbol : Symbol} (takes : symbol.Takes arguments) :
    symbol.score? arguments = some (symbol.fit arguments) := by
  rw [score?, if_neg (Nat.not_lt.mpr takes), fit, exactMatches, ← foldr_scores takes]

theorem score?_of_not_takes {symbol : Symbol} (short : ¬symbol.Takes arguments) :
    symbol.score? arguments = none := by
  rw [score?, if_pos (Nat.lt_of_not_le short)]

section BestFit

variable {symbol best : Symbol} {symbols : List Symbol}

theorem isBestFit_cons_self (takes : symbol.Takes arguments)
    (others : ∀ other ∈ symbols, other.Takes arguments →
      other.fit arguments ≤ symbol.fit arguments) :
    IsBestFit arguments (symbol :: symbols) symbol :=
  ⟨[], symbols, rfl, takes, by simp, others⟩

theorem IsBestFit.cons (isBest : IsBestFit arguments symbols best)
    (below : symbol.Takes arguments → symbol.fit arguments < best.fit arguments) :
    IsBestFit arguments (symbol :: symbols) best := by
  rcases isBest with ⟨before, after, rfl, takes, earlier, later⟩
  exact ⟨symbol :: before, after, rfl, takes, List.forall_mem_cons.mpr ⟨below, earlier⟩, later⟩

theorem IsBestFit.fit_le (isBest : IsBestFit arguments symbols best) {other : Symbol}
    (member : other ∈ symbols) (takes : other.Takes arguments) :
    other.fit arguments ≤ best.fit arguments := by
  rcases isBest with ⟨before, after, rfl, -, earlier, later⟩
  rcases List.mem_append.mp member with isBefore | behind
  · exact Nat.le_of_lt (earlier other isBefore takes)
  · rcases List.mem_cons.mp behind with rfl | isAfter
    · exact Nat.le_refl _
    · exact later other isAfter takes

theorem IsBestFit.mem (isBest : IsBestFit arguments symbols best) : best ∈ symbols := by
  rcases isBest with ⟨before, after, rfl, -⟩
  simp

/-- The search for the best fit finds nothing only if no function takes the arguments. -/
theorem bestFit?_eq_none_iff :
    bestFit? arguments symbols = none ↔ ∀ symbol ∈ symbols, ¬symbol.Takes arguments := by
  induction symbols with
  | nil => simp [bestFit?]
  | cons symbol symbols ih =>
      rw [List.forall_mem_cons, ← ih, bestFit?]
      by_cases takes : symbol.Takes arguments
      · rw [score?_of_takes takes]
        cases bestFit? arguments symbols with
        | none => simp [takes]
        | some found =>
            simp only [takes, reduceCtorEq, not_true_eq_false, false_and, iff_false]
            split <;> simp
      · rw [score?_of_not_takes takes]
        simp [takes]

/-- What the search finds is the first of the best fit. -/
theorem isBestFit_of_bestFit? {score : Nat}
    (found : bestFit? arguments symbols = some (best, score)) :
    IsBestFit arguments symbols best ∧ score = best.fit arguments := by
  induction symbols generalizing best score with
  | nil => cases found
  | cons symbol symbols ih =>
      rw [bestFit?] at found
      by_cases takes : symbol.Takes arguments
      · rw [score?_of_takes takes] at found
        cases foundLater : bestFit? arguments symbols with
        | none =>
            simp only [foundLater, Option.some.injEq, Prod.mk.injEq] at found
            rcases found with ⟨rfl, rfl⟩
            have noneTakes := bestFit?_eq_none_iff.mp foundLater
            refine ⟨isBestFit_cons_self takes ?_, rfl⟩
            intro other member otherTakes
            exact absurd otherTakes (noneTakes other member)
        | some later =>
            rcases later with ⟨other, otherScore⟩
            rcases ih foundLater with ⟨isBest, rfl⟩
            simp only [foundLater] at found
            split at found
            next below =>
              cases found
              exact ⟨isBest.cons fun _ => below, rfl⟩
            next notBelow =>
              cases found
              refine ⟨isBestFit_cons_self takes ?_, rfl⟩
              intro another member anotherTakes
              exact Nat.le_trans (isBest.fit_le member anotherTakes) (Nat.le_of_not_lt notBelow)
      · rw [score?_of_not_takes takes] at found
        rcases ih found with ⟨isBest, scoreEq⟩
        exact ⟨isBest.cons fun isTaken => absurd isTaken takes, scoreEq⟩

end BestFit

end Symbol

/-- Whether a parameter is shown with its name and type, and with what the documentation says of its
name. -/
structure ParameterHelp.Shows (doc : Option Doc) (parameter : Parameter) (help : ParameterHelp) :
    Prop where
  label_eq : help.label = Parameter.label parameter.name parameter.type
  documentation_eq : help.documentation = doc.bind fun doc => Doc.cleaned? (doc.param? parameter.name)

/-- Whether a function is shown with its label, the summary of its documentation and its parameters in
order. -/
structure Signature.Shows (doc : Option Doc) (symbol : Symbol) (signature : Signature) : Prop where
  label_eq : signature.label = symbol.signatureLabel
  documentation_eq : signature.documentation = doc.bind fun doc => Doc.cleaned? doc.summary
  parameters : List.Forall₂ (ParameterHelp.Shows doc) symbol.parameters signature.parameters

theorem ParameterHelp.rightUnique_shows (doc : Option Doc) :
    Relator.RightUnique (ParameterHelp.Shows doc) := by
  rintro parameter ⟨label, documentation⟩ ⟨label', documentation'⟩ ⟨rfl, rfl⟩ ⟨rfl, rfl⟩
  rfl

/-- There is one way to show a function. -/
theorem Signature.Shows.unique {doc : Option Doc} {symbol : Symbol} {first second : Signature}
    (shown : first.Shows doc symbol) (shown' : second.Shows doc symbol) : first = second := by
  have sameParameters := List.right_unique_forall₂' (ParameterHelp.rightUnique_shows doc)
    shown.parameters shown'.parameters
  rcases first with ⟨label, documentation, parameters⟩
  rcases second with ⟨label', documentation', parameters'⟩
  rcases shown with ⟨rfl, rfl, -⟩
  rcases shown' with ⟨rfl, rfl, -⟩
  cases sameParameters
  rfl

namespace Snapshot

variable {snapshot : Snapshot} {symbols : List Symbol}

theorem shows_signatureOf (snapshot : Snapshot) (symbol : Symbol) :
    (snapshot.signatureOf symbol).Shows (snapshot.semantics.documentation symbol) symbol where
  label_eq := rfl
  documentation_eq := rfl
  parameters := by
    apply List.forall₂_map_right_iff.mpr
    apply List.forall₂_same.mpr
    intro parameter _
    exact ⟨rfl, rfl⟩

/-- The labels that are listed are those of the functions, each where it first occurs. -/
theorem map_label_distinctSignatures (snapshot : Snapshot) (symbols : List Symbol) :
    (snapshot.distinctSignatures symbols).map Signature.label =
      (symbols.map Symbol.signatureLabel).eraseDups := by
  induction symbols with
  | nil => rfl
  | cons symbol symbols ih =>
      rw [distinctSignatures, List.map_cons, List.map_cons, List.eraseDups_cons, eraseDups_filter, ← ih,
        List.filter_map]
      rfl

/-- What is listed for a label shows the first function with the label. -/
theorem exists_find?_of_mem_distinctSignatures {signature : Signature}
    (member : signature ∈ snapshot.distinctSignatures symbols) :
    ∃ symbol, symbols.find? (fun symbol => symbol.signatureLabel == signature.label) = some symbol ∧
      signature.Shows (snapshot.semantics.documentation symbol) symbol := by
  induction symbols with
  | nil => cases member
  | cons symbol symbols ih =>
      rw [distinctSignatures, List.mem_cons, List.mem_filter] at member
      rcases member with rfl | ⟨later, different⟩
      · exact ⟨symbol, List.find?_cons_of_pos (beq_self_eq_true symbol.signatureLabel),
          snapshot.shows_signatureOf symbol⟩
      · rcases ih later with ⟨first, found, shown⟩
        refine ⟨first, ?_, shown⟩
        have differs : signature.label ≠ symbol.signatureLabel := bne_iff_ne.mp different
        rw [List.find?_cons_of_neg, found]
        simpa using differs.symm

/-- The position of a label that is listed is its index among the labels. -/
theorem positionOf_eq_idxOf {signatures : List Signature} {label : String}
    (listed : label ∈ signatures.map Signature.label) :
    positionOf signatures label = (signatures.map Signature.label).idxOf label := by
  rcases List.mem_map.mp listed with ⟨signature, member, labelEq⟩
  rw [positionOf, List.idxOf, List.findIdx_map]
  cases found : signatures.findIdx? fun signature => signature.label == label with
  | none =>
      have absent := List.findIdx?_eq_none_iff.mp found signature member
      simp [labelEq] at absent
  | some position => exact (List.findIdx?_eq_some_iff_findIdx_eq.mp found).2.symm

end Snapshot

/-- Of separators in the order of the source, those that start at or before an offset come first. -/
theorem Tree.separatorsBefore_eq_countP {tree : Tree} {list : NodeId} {offset : Nat}
    (inOrder : (tree.children list).Pairwise fun first second =>
      (tree.span first).start ≤ (tree.span second).start) :
    tree.separatorsBefore list offset = (tree.childrenOfKind list .separator).countP
      fun separator => (tree.span separator).start ≤ offset := by
  rw [separatorsBefore, List.countP_eq_length_filter, takeWhile_eq_filter]
  refine (inOrder.filter _).imp ?_
  intro first second starts passed
  simp only [decide_eq_true_eq] at passed ⊢
  omega

namespace Snapshot

/-- The types of the arguments of an invocation, as far as they are known. -/
def argumentTypes (snapshot : Snapshot) (invocation : Invocation) : List (Option TypeText) :=
  (snapshot.tree.argumentsOf invocation.arguments).map snapshot.semantics.typeOf

/-- What signature help says about an invocation around an offset. -/
structure IsHelpFor (snapshot : Snapshot) (invocation : Invocation) (offset : Nat)
    (help : SignatureHelp) : Prop where
  /-- The labels are those of the functions, without repetitions and in order of first occurrence. -/
  labels : help.signatures.map Signature.label =
    ((snapshot.callables invocation.target).map Symbol.signatureLabel).eraseDups
  /-- An entry shows the first function with its label. -/
  entries : ∀ signature ∈ help.signatures, ∃ symbol,
    (snapshot.callables invocation.target).find? (fun symbol =>
      symbol.signatureLabel == signature.label) = some symbol ∧
    signature.Shows (snapshot.semantics.documentation symbol) symbol
  /-- If a function takes the arguments, the label of the first one of the best fit is active. -/
  active : (∃ symbol ∈ snapshot.callables invocation.target,
      symbol.Takes (snapshot.argumentTypes invocation)) →
    ∃ best, Symbol.IsBestFit (snapshot.argumentTypes invocation)
        (snapshot.callables invocation.target) best ∧
      help.activeSignature = (help.signatures.map Signature.label).idxOf best.signatureLabel
  /-- If no function does, the first label is active. -/
  unfit : (∀ symbol ∈ snapshot.callables invocation.target,
      ¬symbol.Takes (snapshot.argumentTypes invocation)) → help.activeSignature = 0
  /-- If the list is in the order of the source, the separators up to the offset are counted. -/
  parameter : ((snapshot.tree.children invocation.arguments).Pairwise fun first second =>
      (snapshot.tree.span first).start ≤ (snapshot.tree.span second).start) →
    help.activeParameter = (snapshot.tree.childrenOfKind invocation.arguments .separator).countP
      fun separator => (snapshot.tree.span separator).start ≤ offset

theorem activeSignature_of_bestFit? {snapshot : Snapshot} {invocation : Invocation} {offset : Nat}
    {best : Symbol} {score : Nat}
    (found : Symbol.bestFit? (snapshot.argumentTypes invocation)
      (snapshot.callables invocation.target) = some (best, score)) :
    (snapshot.helpFor invocation offset).activeSignature =
      ((snapshot.helpFor invocation offset).signatures.map Signature.label).idxOf
        best.signatureLabel := by
  have isBest := (Symbol.isBestFit_of_bestFit? found).1
  have listed : best.signatureLabel ∈
      (snapshot.distinctSignatures (snapshot.callables invocation.target)).map Signature.label := by
    rw [map_label_distinctSignatures, List.mem_eraseDups]
    exact List.mem_map_of_mem isBest.mem
  rw [argumentTypes] at found
  simp only [helpFor, found]
  exact positionOf_eq_idxOf listed

theorem isHelpFor_helpFor (snapshot : Snapshot) (invocation : Invocation) (offset : Nat) :
    snapshot.IsHelpFor invocation offset (snapshot.helpFor invocation offset) where
  labels := snapshot.map_label_distinctSignatures (snapshot.callables invocation.target)
  entries _ := exists_find?_of_mem_distinctSignatures
  active := by
    rintro ⟨symbol, member, takes⟩
    cases found : Symbol.bestFit? (snapshot.argumentTypes invocation)
        (snapshot.callables invocation.target) with
    | none => exact absurd takes (Symbol.bestFit?_eq_none_iff.mp found symbol member)
    | some best =>
        exact ⟨best.1, (Symbol.isBestFit_of_bestFit? found).1, activeSignature_of_bestFit? found⟩
  unfit noneTakes := by
    have found := Symbol.bestFit?_eq_none_iff.mpr noneTakes
    rw [argumentTypes] at found
    simp only [helpFor, found]
  parameter := Tree.separatorsBefore_eq_countP

/-- At every offset inside an invocation, for every tree and every semantics, there is signature help for
the invocation: it lists the labels of the functions that may be called, once each and in order, and
selects the first function of the best fit and the parameter at the offset. -/
theorem exists_signatureHelp_isHelpFor {snapshot : Snapshot} {offset : Nat} {invocation : Invocation}
    (inside : snapshot.tree.findInvocation? offset = some invocation) :
    ∃ help, snapshot.signatureHelp offset false = .ok (some help) ∧
      snapshot.IsHelpFor invocation offset help := by
  refine ⟨snapshot.helpFor invocation offset, ?_, snapshot.isHelpFor_helpFor invocation offset⟩
  have answered : snapshot.signatureHelp offset false =
      .ok ((snapshot.tree.findInvocation? offset).map fun invocation =>
        snapshot.helpFor invocation offset) := rfl
  rw [answered, inside, Option.map_some]

/-- One of some functions `f`. -/
def overload (id : SymbolId) (parameters : List Parameter) : Symbol :=
  { id := id, name := "f", kind := .function, parameters := parameters }

/-- The documentation of one of them. -/
def overloadDoc : Doc :=
  { summary := some "Tries  it out.", params := [("x", "what  to try")] }

theorem shows_overload : Signature.Shows (some overloadDoc) (overload 0 [⟨"x", some ⟨"A"⟩⟩])
    ⟨"f(x: A)", some "Tries it out.", [⟨"x: A", some "what to try"⟩]⟩ where
  label_eq := by decide
  documentation_eq := by
    have untagged : Doc.dropTags "Tries  it out.".toList = "Tries  it out.".toList := by
      simp [Doc.dropTags]
    simp only [overloadDoc, Option.bind_some, Doc.cleaned?, Option.map_some, Doc.clean, Text.mapChars,
      untagged]
    decide
  parameters := by
    have untagged : Doc.dropTags "what  to try".toList = "what  to try".toList := by
      simp [Doc.dropTags]
    refine .cons ⟨by decide, ?_⟩ .nil
    simp only [overloadDoc, Option.bind_some, Doc.param?, List.find?_cons_of_pos, beq_self_eq_true,
      Option.map_some, Doc.cleaned?, Doc.clean, Text.mapChars, untagged]
    decide

/-- Answers for the call `f(a, b)` with an `a` of type `A`: there are four functions `f`, two of them with
the same label, of which the first is documented. -/
def overloadedSemantics : Semantics where
  language := ""
  documentText _ := none
  diagnostics _ := .ok []
  symbolAt _ := none
  declared _ := none
  bound _ := none
  typeOf node := if node = 5 then some ⟨"A"⟩ else none
  typeSymbol _ := none
  findDeclaration _ := none
  documentation symbol :=
    if symbol = overload 0 [⟨"x", some ⟨"A"⟩⟩] then some overloadDoc else none
  memberGroup _ :=
    [overload 0 [⟨"x", some ⟨"A"⟩⟩], overload 1 [⟨"x", some ⟨"A"⟩⟩],
      overload 2 [⟨"x", some ⟨"B"⟩⟩, ⟨"y", some ⟨"C"⟩⟩],
      overload 3 [⟨"x", some ⟨"A"⟩⟩, ⟨"y", some ⟨"C"⟩⟩]]
  asValue _ := none
  asType _ := none
  isStaticAt _ := false
  completions _ _ := .ok []
  describe _ := none
  formatEdits _ _ := .ok []
  rename _ _ _ := .ok []

/-- The call `f(a, b)`. -/
def overloadedCall : Snapshot where
  source := "f(a, b)"
  offsets := .ofText "f(a, b)"
  tree :=
    let enter (kind : NodeKind) (start stop : Nat) (role : Option Role) : Tree.Event :=
      .enter ⟨kind, "", ⟨start, stop⟩, role, false⟩
    let leaf (kind : NodeKind) (start stop : Nat) (role : Option Role) : List Tree.Event :=
      [enter kind start stop role, .exit]
    .ofEvents ([enter .root 0 7 none, enter .invocation 0 7 none] ++
      leaf .identifier 0 1 (some .target) ++ [enter .argumentList 1 7 (some .arguments)] ++
      leaf .punctuation 1 2 none ++ leaf .identifier 2 3 none ++ leaf .separator 3 4 none ++
      leaf .identifier 5 6 none ++ leaf .punctuation 6 7 none ++ [.exit, .exit, .exit])
  semantics := overloadedSemantics
  diagnostics := none
  output := .library

/-- Three labels are listed for the four functions, the first one as the first function is documented;
behind the comma the second parameter is active, and the label of the best fit is. -/
theorem exists_signatureHelp_isHelpFor_overloaded :
    overloadedCall.tree.findInvocation? 4 = some ⟨2, 3⟩ ∧
    ∃ help, overloadedCall.signatureHelp 4 false = .ok (some help) ∧
      help.signatures.map Signature.label = ["f(x: A)", "f(x: B, y: C)", "f(x: A, y: C)"] ∧
      (∀ signature ∈ help.signatures, signature.label = "f(x: A)" →
        signature = ⟨"f(x: A)", some "Tries it out.", [⟨"x: A", some "what to try"⟩]⟩) ∧
      help.activeParameter = 1 ∧
      ∃ best, Symbol.IsBestFit [some ⟨"A"⟩, none] (overloadedSemantics.memberGroup 2) best ∧
        help.activeSignature = (help.signatures.map Signature.label).idxOf best.signatureLabel := by
  have inside : overloadedCall.tree.findInvocation? 4 = some ⟨2, 3⟩ := by decide +kernel
  rcases exists_signatureHelp_isHelpFor inside with ⟨help, answered, isHelp⟩
  refine ⟨inside, help, answered, ?_, ?_, ?_, ?_⟩
  · rw [isHelp.labels]
    decide
  · intro signature member labelEq
    rcases isHelp.entries signature member with ⟨symbol, found, shown⟩
    rw [labelEq] at found
    have isFirst : (overloadedCall.callables 2).find? (fun symbol =>
        symbol.signatureLabel == "f(x: A)") = some (overload 0 [⟨"x", some ⟨"A"⟩⟩]) := by
      decide
    cases found.symm.trans isFirst
    exact shown.unique shows_overload
  · rw [isHelp.parameter (by decide)]
    decide
  · exact isHelp.active (by decide)

end Snapshot

end SourceLens
