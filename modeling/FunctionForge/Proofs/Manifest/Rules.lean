import FunctionForge.Control
import FunctionForge.Manifest.Unit
import FunctionForge.Proofs.Manifest.Name

/-!
# The rules for manifests

The rules are a list: what has to hold, in the order in which it is checked, each with the kind of
error that reports it. A computation enforces rules if it gives a value when all of them hold, and
otherwise an error of the kind of the first one that is broken. Sequencing two computations joins
their rules, so each check is looked at alone.
-/

namespace FunctionForge

/-- The kind of an error, apart from its texts and places. -/
inductive ManifestError.Kind where
  | unreadable
  | malformed
  | invalid
  | keyword
  | identifier
  | duplicate
  | badType
  | unknownKind
  deriving DecidableEq, Repr

def ManifestError.kind : ManifestError → ManifestError.Kind
  | unreadable _ _ => .unreadable
  | malformed _ => .malformed
  | invalid _ _ => .invalid
  | keyword _ _ _ => .keyword
  | identifier _ _ _ _ => .identifier
  | duplicate _ _ _ _ => .duplicate
  | badType _ _ _ => .badType
  | unknownKind _ _ => .unknownKind

/-- What has to hold, and the kind of error that reports that it does not. -/
structure Rule where
  holds : Prop
  kind : ManifestError.Kind

/-- A result that enforces rules in order. -/
structure Enforced {α : Type} (rules : List Rule) (result : Except ManifestError α) : Prop where
  ok (a : α) (h : result = .ok a) : ∀ rule ∈ rules, rule.holds
  error (e : ManifestError) (h : result = .error e) : ∃ before rule after,
    rules = before ++ rule :: after ∧ (∀ earlier ∈ before, earlier.holds) ∧
      ¬ rule.holds ∧ e.kind = rule.kind

namespace Enforced

variable {α β : Type} {rule : Rule} {rules more : List Rule} {result : Except ManifestError α}

theorem nil (a : α) : Enforced [] (.ok a) where
  ok _ _ _ hmem := absurd hmem List.not_mem_nil
  error _ h := nomatch h

theorem cons (hrule : rule.holds) (h : Enforced rules result) :
    Enforced (rule :: rules) result where
  ok a ha := List.forall_mem_cons.2 ⟨hrule, h.ok a ha⟩
  error e he := by
    obtain ⟨before, broken, after, hrules, hbefore, hbroken, hkind⟩ := h.error e he
    refine ⟨rule :: before, broken, after, ?_, ?_, hbroken, hkind⟩
    · rw [hrules, List.cons_append]
    · exact List.forall_mem_cons.2 ⟨hrule, hbefore⟩

theorem broken {e : ManifestError} (hrule : ¬ rule.holds) (hkind : e.kind = rule.kind) :
    Enforced (α := α) (rule :: rules) (.error e) where
  ok _ h := nomatch h
  error _ h := by
    cases h
    exact ⟨[], rule, rules, rfl, fun _ hmem => absurd hmem List.not_mem_nil, hrule, hkind⟩

theorem bind {next : α → Except ManifestError β} (h : Enforced rules result)
    (hnext : ∀ a, result = .ok a → Enforced more (next a)) :
    Enforced (rules ++ more) (result >>= next) := by
  cases hresult : result with
  | error e =>
    obtain ⟨before, rule, after, hrules, hbefore, hrule, hkind⟩ := h.error e hresult
    rw [hrules, List.append_assoc, List.cons_append]
    refine ⟨fun _ h => (nomatch h), fun e' he' => ?_⟩
    cases he'
    exact ⟨before, rule, after ++ more, rfl, hbefore, hrule, hkind⟩
  | ok a =>
    have hmore := hnext a hresult
    refine ⟨fun b hb rule hmem => ?_, fun e he => ?_⟩
    · rcases List.mem_append.1 hmem with hmem | hmem
      · exact h.ok a hresult rule hmem
      · exact hmore.ok b hb rule hmem
    · obtain ⟨before, rule, after, hrules, hbefore, hrule, hkind⟩ := hmore.error e he
      refine ⟨rules ++ before, rule, after, ?_, fun earlier hmem => ?_, hrule, hkind⟩
      · rw [hrules, List.append_assoc]
      · rcases List.mem_append.1 hmem with hmem | hmem
        · exact h.ok a hresult earlier hmem
        · exact hbefore earlier hmem

theorem map {f : α → β} (h : Enforced rules result) :
    Enforced rules (result >>= fun a => pure (f a)) := by
  rw [← List.append_nil rules]
  exact h.bind fun a _ => nil (f a)

theorem exists_ok_iff (h : Enforced rules result) :
    (∃ a, result = .ok a) ↔ ∀ rule ∈ rules, rule.holds := by
  constructor
  · rintro ⟨a, ha⟩
    exact h.ok a ha
  · intro hall
    cases hresult : result with
    | ok a => exact ⟨a, rfl⟩
    | error e =>
      obtain ⟨before, rule, after, hrules, -, hrule, -⟩ := h.error e hresult
      have hmem : rule ∈ rules := by
        rw [hrules]
        exact List.mem_append_right before List.mem_cons_self
      exact absurd (hall rule hmem) hrule

end Enforced

namespace Manifest

def kindNames : List String :=
  ["interface", "class", "enum_class", "enum_entry", "object", "annotation_class"]

/-- The rules for entries in order, each about the entry and the keys of those before it. -/
def inOrder {α : Type} (key : α → String) (rules : List String → α → List Rule) :
    List String → List α → List Rule
  | _, [] => []
  | seen, entry :: rest => rules seen entry ++ inOrder key rules (key entry :: seen) rest

def nameRules (name : String) : List Rule :=
  [⟨name ∉ Name.keywords, .keyword⟩, ⟨Name.IsIdentifier name.toList, .identifier⟩]

def dottedRule (name : String) : Rule := ⟨Name.IsDotted name, .identifier⟩

def importRules (seen : List String) (name : String) : List Rule :=
  [dottedRule name, ⟨Text.lastSegment name ∉ seen, .invalid⟩]

def propertyRules (seen : List String) (entry : PropertyEntry) : List Rule :=
  nameRules entry.name ++ [⟨entry.name ∉ seen, .duplicate⟩,
    ⟨∃ type, TypeExpr.parse entry.type = .ok type, .badType⟩]

def declarationRules (seen : List String) (entry : DeclarationEntry) : List Rule :=
  nameRules entry.name ++ [⟨entry.name ∉ seen, .duplicate⟩,
    ⟨∀ name, entry.kind = some name → name ∈ kindNames, .unknownKind⟩] ++
    inOrder PropertyEntry.name propertyRules [] entry.properties

/-- The rules for a manifest. -/
def rules (manifest : Manifest) : List Rule :=
  [dottedRule manifest.source.package, dottedRule manifest.output.package] ++
    nameRules manifest.output.file ++
    inOrder Text.lastSegment importRules [] manifest.source.imports ++
    inOrder DeclarationEntry.name declarationRules [] manifest.declarations

theorem forall_mem_inOrder_iff {α : Type} {key : α → String} {rules : List String → α → List Rule}
    {P : α → Prop}
    (hrules : ∀ seen entry, (∀ rule ∈ rules seen entry, rule.holds) ↔ P entry ∧ key entry ∉ seen)
    (seen : List String) (entries : List α) :
    (∀ rule ∈ inOrder key rules seen entries, rule.holds) ↔
      (∀ entry ∈ entries, P entry) ∧ (entries.map key).Nodup ∧
        ∀ entry ∈ entries, key entry ∉ seen := by
  induction entries generalizing seen with
  | nil => simp [inOrder]
  | cons entry rest ih =>
    have hseen : (∀ other ∈ rest, key other ∉ key entry :: seen) ↔
        key entry ∉ rest.map key ∧ ∀ other ∈ rest, key other ∉ seen := by
      simp only [List.mem_cons, not_or, List.mem_map, not_exists, not_and, forall_and]
    rw [inOrder, List.forall_mem_append, hrules, ih, hseen, List.map_cons, List.nodup_cons,
      List.forall_mem_cons, List.forall_mem_cons]
    constructor
    · rintro ⟨⟨hentry, hfresh⟩, hrest, hnodup, hdistinct, hunseen⟩
      exact ⟨⟨hentry, hrest⟩, ⟨hdistinct, hnodup⟩, hfresh, hunseen⟩
    · rintro ⟨⟨hentry, hrest⟩, ⟨hdistinct, hnodup⟩, hfresh, hunseen⟩
      exact ⟨⟨hentry, hfresh⟩, hrest, hnodup, hdistinct, hunseen⟩

end Manifest

end FunctionForge
