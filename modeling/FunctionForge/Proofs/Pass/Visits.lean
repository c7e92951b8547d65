import FunctionForge.Pass
import FunctionForge.Proofs.Output.Answer

/-!
# Visits

Visiting a declaration gives a text, skips the declaration, or fails. A pass visits declarations in
order and stops at the first failure, so the texts that it may send are those that come before.
-/

namespace FunctionForge

variable (resolver : Resolver) (options : Options)

namespace Declaration

/-- The text that visiting a declaration gives, none if it is skipped or the visit fails. -/
def text? (declaration : Declaration) : Option String :=
  match (declaration.function resolver options).1 with
  | .ok text => text
  | .error _ => none

def fatal? (declaration : Declaration) : Option GenerationError :=
  failure? (declaration.function resolver options).1

/-- How a visit can end. -/
theorem function_cases (declaration : Declaration) :
    (declaration.kind ≠ .interface ∧
      (declaration.function resolver options).1 = .ok none) ∨
    (declaration.kind = .interface ∧
      ((∃ e, declaration.functionName = .error e ∧
          (declaration.function resolver options).1 = .error e) ∨
        (∃ count, (declaration.function resolver options).1 =
          .error (.ambiguousReturn declaration.qualifiedName count)) ∨
        ∃ text, (declaration.function resolver options).1 = .ok (some text))) := by
  by_cases hkind : declaration.kind = .interface
  · refine .inr ⟨hkind, ?_⟩
    rw [function, if_neg (Decidable.not_not.2 hkind)]
    split
    · next e hname => exact .inl ⟨e, hname, rfl⟩
    · split
      · exact .inr (.inr ⟨_, rfl⟩)
      · simp only
        split
        · exact .inr (.inl ⟨_, rfl⟩)
        · exact .inr (.inr ⟨_, rfl⟩)
  · rw [function, if_pos hkind]
    exact .inl ⟨hkind, rfl⟩

theorem function_eq_ok_none_iff (declaration : Declaration) :
    (declaration.function resolver options).1 = .ok none ↔ declaration.kind ≠ .interface := by
  obtain ⟨hkind, hresult⟩ | ⟨hkind, ⟨e, -, hresult⟩ | ⟨count, hresult⟩ | ⟨text, hresult⟩⟩ :=
    function_cases resolver options declaration
  all_goals simp [hkind, hresult]

theorem functionName_ne_notAnnotated {declaration : Declaration}
    (hannotated : declaration.isAnnotated functionAnnotation) (name : String) :
    declaration.functionName ≠ .error (.notAnnotated name) := by
  obtain ⟨mark, hmark⟩ := Option.isSome_iff_exists.1 hannotated
  intro h
  simp only [functionName, hmark] at h
  split at h <;> cases h

theorem fatal?_ne_notAnnotated {declaration : Declaration}
    (hannotated : declaration.isAnnotated functionAnnotation) (name : String) :
    declaration.fatal? resolver options ≠ some (.notAnnotated name) := by
  intro h
  rw [fatal?] at h
  obtain ⟨-, hresult⟩ | ⟨-, ⟨e, hname, hresult⟩ | ⟨count, hresult⟩ | ⟨text, hresult⟩⟩ :=
    function_cases resolver options declaration
  · rw [hresult] at h
    cases h
  · rw [hresult] at h
    cases h
    exact functionName_ne_notAnnotated hannotated name hname
  · rw [hresult] at h
    cases h
  · rw [hresult] at h
    cases h

variable {resolver options} {declaration : Declaration}

theorem interface_of_text {text : String}
    (h : (declaration.function resolver options).1 = .ok (some text)) :
    declaration.kind = .interface := by
  refine Decidable.not_not.1 fun hkind => ?_
  rw [(function_eq_ok_none_iff resolver options declaration).2 hkind] at h
  cases h

end Declaration

namespace Pass

def visited (declarations : List Declaration) : List String :=
  declarations.filterMap (Declaration.text? resolver options)

/-- The texts of the visits before the first one that fails. -/
def texts (declarations : List Declaration) : List String :=
  visited resolver options <|
    declarations.takeWhile fun declaration => (declaration.fatal? resolver options).isNone

def firstFatal? (declarations : List Declaration) : Option GenerationError :=
  declarations.findSome? (Declaration.fatal? resolver options)

variable {resolver options} {declaration : Declaration}

theorem texts_append {before : List Declaration}
    (hbefore : ∀ declaration ∈ before, declaration.fatal? resolver options = none)
    (rest : List Declaration) : texts resolver options (before ++ rest) =
      visited resolver options before ++ texts resolver options rest := by
  rw [texts, List.takeWhile_append_of_pos, visited, List.filterMap_append, texts, visited, visited]
  intro declaration hmem
  rw [hbefore declaration hmem, Option.isNone_none]

theorem texts_of_all {declarations : List Declaration}
    (hall : ∀ declaration ∈ declarations, declaration.fatal? resolver options = none) :
    texts resolver options declarations = visited resolver options declarations := by
  rw [← List.append_nil declarations, texts_append hall, List.append_nil]
  exact List.append_nil _

theorem texts_cons_of_error {e : GenerationError}
    (h : (declaration.function resolver options).1 = .error e) (rest : List Declaration) :
    texts resolver options (declaration :: rest) = [] := by
  have hfatal : (declaration.fatal? resolver options).isNone = false := by
    rw [Declaration.fatal?, h]
    rfl
  simp only [texts, List.takeWhile_cons, hfatal, Bool.false_eq_true, if_false]
  rfl

theorem texts_cons_of_ok {text? : Option String}
    (h : (declaration.function resolver options).1 = .ok text?) (rest : List Declaration) :
    texts resolver options (declaration :: rest) =
      text?.toList ++ texts resolver options rest := by
  have htext : declaration.text? resolver options = text? := by rw [Declaration.text?, h]
  have hfatal : declaration.fatal? resolver options = none := by rw [Declaration.fatal?, h]; rfl
  rw [← List.singleton_append, texts_append (List.forall_mem_singleton.2 hfatal)]
  cases text? <;> simp [visited, htext]

theorem firstFatal?_cons_of_error {e : GenerationError}
    (h : (declaration.function resolver options).1 = .error e) (rest : List Declaration) :
    firstFatal? resolver options (declaration :: rest) = some e := by
  rw [firstFatal?, List.findSome?_cons, Declaration.fatal?, h]
  rfl

theorem firstFatal?_cons_of_ok {text? : Option String}
    (h : (declaration.function resolver options).1 = .ok text?) (rest : List Declaration) :
    firstFatal? resolver options (declaration :: rest) = firstFatal? resolver options rest := by
  rw [firstFatal?, List.findSome?_cons, Declaration.fatal?, h]
  rfl

theorem firstFatal?_eq_none_iff {declarations : List Declaration} :
    firstFatal? resolver options declarations = none ↔
      ∀ declaration ∈ declarations, declaration.fatal? resolver options = none :=
  List.findSome?_eq_none_iff

end Pass

end FunctionForge
