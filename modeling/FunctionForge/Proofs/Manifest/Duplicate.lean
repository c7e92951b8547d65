import FunctionForge.Proofs.Manifest.Document
import FunctionForge.Proofs.Manifest.Labels
import FunctionForge.Proofs.Manifest.Unit

/-!
# Where a duplicate name is shown

Names are compared within their scope, and the labels of a duplicate are looked up in the whole text.
So the labels are at the two definitions that clash if and only if the name is given nowhere else
above the second of them.
-/

namespace FunctionForge

open Text

/-! ### Which name is a duplicate -/

/-- A result is a duplicate only if one of its rules is about duplicates. -/
theorem Enforced.ne_duplicate {α : Type} {rules : List Rule} {result : Except ManifestError α}
    (h : Enforced rules result) (hrules : ∀ rule ∈ rules, rule.kind ≠ .duplicate)
    {name context : String} {first second : Option Span} :
    result ≠ .error (.duplicate name context first second) := by
  intro hresult
  obtain ⟨before, rule, after, rfl, -, -, hkind⟩ := h.error _ hresult
  exact hrules rule (by simp) hkind.symm

/-- A name is the first among names that repeats an earlier one, where others were seen before. -/
def Repeats (seen names : List String) (name : String) : Prop :=
  ∃ earlier later, names = earlier ++ name :: later ∧ (seen.reverse ++ earlier).Nodup ∧
    name ∈ seen.reverse ++ earlier

theorem Repeats.head {seen : List String} {name : String} (hseen : seen.Nodup) (hname : name ∈ seen)
    (names : List String) : Repeats seen (name :: names) name :=
  ⟨[], names, rfl, by simpa [(List.reverse_perm seen).nodup_iff] using hseen, by simpa using hname⟩

theorem Repeats.tail {seen names : List String} {other name : String}
    (h : Repeats (other :: seen) names name) : Repeats seen (other :: names) name := by
  obtain ⟨earlier, later, rfl, hnodup, hname⟩ := h
  refine ⟨other :: earlier, later, rfl, ?_, ?_⟩
  · simpa using hnodup
  · simpa using hname

namespace Manifest

variable {source : String} {name context : String} {first second : Option Span}

theorem mem_of_checkFresh_eq_error {seen : List String} {given about : String}
    (h : checkFresh source about seen given = .error (.duplicate name context first second)) :
    given ∈ seen ∧ given = name ∧ about = context := by
  rw [checkFresh] at h
  split at h
  · next hseen =>
    cases h
    exact ⟨List.contains_iff_mem.1 hseen, rfl, rfl⟩
  · cases h

theorem not_mem_of_checkFresh {seen : List String} {given about : String}
    (h : checkFresh source about seen given = .ok ()) : given ∉ seen :=
  (checkFresh_enforced source about seen given).ok () h _ List.mem_cons_self

theorem isIdentifier_of_check {given about : String} (h : Name.check source about given = .ok ()) :
    Name.IsIdentifier given.toList :=
  (Name.check_enforced source about given).ok () h ⟨Name.IsIdentifier given.toList, .identifier⟩
    (by simp [nameRules])

theorem kind_ne_of_mem_importRules (seen names : List String) :
    ∀ rule ∈ inOrder Text.lastSegment importRules seen names, rule.kind ≠ .duplicate := by
  induction names generalizing seen with
  | nil => exact fun _ h => absurd h List.not_mem_nil
  | cons name rest ih =>
    rw [inOrder, List.forall_mem_append]
    exact ⟨by simp [importRules, dottedRule], ih _⟩

theorem check_ne_duplicate (given about : String) :
    Name.check source about given ≠ .error (.duplicate name context first second) :=
  (Name.check_enforced source about given).ne_duplicate (by simp [nameRules])

theorem repeats_of_propertiesOf {owner : String} {seen : List String}
    {entries : List PropertyEntry} (hseen : seen.Nodup)
    (h : propertiesOf source owner seen entries =
      .error (.duplicate name context first second)) :
    context = propertyContext owner ∧ Name.IsIdentifier name.toList ∧
      Repeats seen (entries.map PropertyEntry.name) name := by
  induction entries generalizing seen with
  | nil => cases h
  | cons entry rest ih =>
    rcases exists_of_bind_eq_error h with h | ⟨_, hcheck, h⟩
    · exact absurd h (check_ne_duplicate _ _)
    rcases exists_of_bind_eq_error h with h | ⟨_, hfresh, h⟩
    · obtain ⟨hmem, rfl, rfl⟩ := mem_of_checkFresh_eq_error h
      exact ⟨rfl, isIdentifier_of_check hcheck, .head hseen hmem _⟩
    rcases exists_of_bind_eq_error h with h | ⟨type, -, h⟩
    · exact absurd h ((typeOf_enforced source entry.type).ne_duplicate (by simp))
    rcases exists_of_bind_eq_error h with h | ⟨others, -, h⟩
    · have hnodup : (entry.name :: seen).Nodup :=
        List.nodup_cons.2 ⟨not_mem_of_checkFresh hfresh, hseen⟩
      obtain ⟨hcontext, hname, hrepeats⟩ := ih hnodup h
      exact ⟨hcontext, hname, hrepeats.tail⟩
    · cases h

theorem repeats_of_declarationOf {package : String} {entry : DeclarationEntry}
    (h : declarationOf source package entry = .error (.duplicate name context first second)) :
    context = propertyContext entry.name ∧ Name.IsIdentifier name.toList ∧
      Repeats [] (entry.properties.map PropertyEntry.name) name := by
  rcases exists_of_bind_eq_error h with h | ⟨kind, -, h⟩
  · exact absurd h ((kindOf_enforced source entry.kind).ne_duplicate (by simp))
  rcases exists_of_bind_eq_error h with h | ⟨properties, -, h⟩
  · exact repeats_of_propertiesOf .nil h
  · cases h

/-- A duplicate is a declaration with the name of an earlier one, or a property with the name of an
earlier one of its declaration, whose own name is new. -/
theorem repeats_of_declarationsOf {package : String} {seen : List String}
    {entries : List DeclarationEntry} (hseen : seen.Nodup)
    (h : declarationsOf source package seen entries =
      .error (.duplicate name context first second)) :
    Name.IsIdentifier name.toList ∧
      (context = "declaration" ∧ Repeats seen (entries.map DeclarationEntry.name) name ∨
        ∃ before owner after, entries = before ++ owner :: after ∧
          owner.name ∉ seen ++ before.map DeclarationEntry.name ∧
          context = propertyContext owner.name ∧
          Repeats [] (owner.properties.map PropertyEntry.name) name) := by
  induction entries generalizing seen with
  | nil => cases h
  | cons entry rest ih =>
    rcases exists_of_bind_eq_error h with h | ⟨_, hcheck, h⟩
    · exact absurd h (check_ne_duplicate _ _)
    rcases exists_of_bind_eq_error h with h | ⟨_, hfresh, h⟩
    · obtain ⟨hmem, rfl, rfl⟩ := mem_of_checkFresh_eq_error h
      exact ⟨isIdentifier_of_check hcheck, .inl ⟨rfl, .head hseen hmem _⟩⟩
    have hnew : entry.name ∉ seen := not_mem_of_checkFresh hfresh
    rcases exists_of_bind_eq_error h with h | ⟨declaration, -, h⟩
    · obtain ⟨hcontext, hname, hrepeats⟩ := repeats_of_declarationOf h
      exact ⟨hname, .inr ⟨[], entry, rest, rfl, by simpa using hnew, hcontext, hrepeats⟩⟩
    rcases exists_of_bind_eq_error h with h | ⟨others, -, h⟩
    · obtain ⟨hname, hcases⟩ := ih (List.nodup_cons.2 ⟨hnew, hseen⟩) h
      refine ⟨hname, ?_⟩
      rcases hcases with ⟨hcontext, hrepeats⟩ | ⟨before, owner, after, rfl, howner, hrest⟩
      · exact .inl ⟨hcontext, hrepeats.tail⟩
      · refine .inr ⟨entry :: before, owner, after, rfl, ?_, hrest⟩
        rw [List.map_cons, List.perm_middle.mem_iff]
        exact howner
    · cases h

theorem repeats_of_toUnit {manifest : Manifest}
    (h : manifest.toUnit source = .error (.duplicate name context first second)) :
    Name.IsIdentifier name.toList ∧
      (context = "declaration" ∧
        Repeats [] (manifest.declarations.map DeclarationEntry.name) name ∨
        ∃ before owner after, manifest.declarations = before ++ owner :: after ∧
          owner.name ∉ before.map DeclarationEntry.name ∧
          context = propertyContext owner.name ∧
          Repeats [] (owner.properties.map PropertyEntry.name) name) := by
  rcases exists_of_bind_eq_error h with h | ⟨_, -, h⟩
  · exact absurd h ((Name.checkDotted_enforced source _ _).ne_duplicate (by simp [dottedRule]))
  rcases exists_of_bind_eq_error h with h | ⟨_, -, h⟩
  · exact absurd h ((Name.checkDotted_enforced source _ _).ne_duplicate (by simp [dottedRule]))
  rcases exists_of_bind_eq_error h with h | ⟨_, -, h⟩
  · exact absurd h (check_ne_duplicate _ _)
  rcases exists_of_bind_eq_error h with h | ⟨_, -, h⟩
  · exact absurd h ((checkImports_enforced source [] _).ne_duplicate
      (kind_ne_of_mem_importRules _ _))
  rcases exists_of_bind_eq_error h with h | ⟨declarations, -, h⟩
  · exact repeats_of_declarationsOf .nil h
  · cases h

end Manifest

/-! ### The scope of a duplicate -/

/-- A document gives the names that a manifest has, in the same order. -/
def Document.Names (doc : Document) (manifest : Manifest) : Prop :=
  doc.declarations.map (fun d => (d.name, d.properties.map Block.name)) =
    manifest.declarations.map fun entry =>
      (entry.name, entry.properties.map PropertyEntry.name)

/-- The names of declarations that agree with entries in all their names. -/
theorem map_name_of_names {blocks : List DeclarationBlock} {entries : List DeclarationEntry}
    (h : blocks.map (fun d => (d.name, d.properties.map Block.name)) =
      entries.map fun entry => (entry.name, entry.properties.map PropertyEntry.name)) :
    blocks.map (fun d => d.name) = entries.map DeclarationEntry.name := by
  have hnames := congrArg (List.map Prod.fst) h
  rw [List.map_map, List.map_map] at hnames
  exact hnames

theorem Document.Names.declared {doc : Document} {manifest : Manifest} (h : doc.Names manifest) :
    (doc.declarations.map DeclarationBlock.whole).map Block.name =
      manifest.declarations.map DeclarationEntry.name := by
  rw [List.map_map]
  exact map_name_of_names h

/-- The scope in which a name is a duplicate, with the two definitions that clash. -/
theorem exists_isClash_of_toUnit {doc : Document} {manifest : Manifest} {source name context : String}
    {first second : Option Span} (hnames : doc.Names manifest)
    (h : manifest.toUnit source = .error (.duplicate name context first second)) :
    ∃ scope left right, doc.IsScope context scope ∧ IsClash scope name left right := by
  obtain ⟨-, ⟨rfl, earlier, later, hrepeats, hnodup, hname⟩ |
    ⟨before, owner, after, hsplit, howner, rfl, earlier, later, hrepeats, hnodup, hname⟩⟩ :=
      Manifest.repeats_of_toUnit h
  · rw [← hnames.declared, ← map_name_definitions declarationHeading doc.preamble] at hrepeats
    obtain ⟨left, right, hclash⟩ := exists_isClash hrepeats hnodup hname
    exact ⟨_, left, right, .declarations, hclash⟩
  · unfold Document.Names at hnames
    rw [hsplit, List.map_append, List.map_cons, List.map_eq_append_iff] at hnames
    obtain ⟨front, back, hdeclarations, hfront, hback⟩ := hnames
    obtain ⟨block, rest, rfl, hblock, -⟩ := List.map_eq_cons_iff.1 hback
    obtain ⟨hownerName, hproperties⟩ := Prod.mk.inj hblock
    rw [← map_name_of_names hfront, ← hownerName] at howner
    rw [← hproperties, ← map_name_definitions propertyHeading] at hrepeats
    obtain ⟨left, right, hclash⟩ := exists_isClash hrepeats hnodup hname
    rw [← hownerName]
    exact ⟨_, left, right, .properties hdeclarations howner, hclash⟩

/-! ### The two labels -/

theorem ManifestError.Placed.places_eq {source name context : String} {first second : Option Span}
    (h : Placed source (.duplicate name context first second)) :
    first = (Span.names source name).head? ∧ second = (Span.names source name)[1]? := by
  cases h
  exact ⟨rfl, rfl⟩

theorem offset_le_of_mem {p place : Span} {places : List Span}
    (hsorted : (p :: places).Pairwise fun a b => a.offset < b.offset) (h : place ∈ p :: places) :
    p.offset ≤ place.offset := by
  rcases List.mem_cons.1 h with rfl | h
  · exact Nat.le_refl _
  · exact Nat.le_of_lt ((List.pairwise_cons.1 hsorted).1 place h)

/-- The first two places of a name are two given ones if and only if there is no other place in front
of the second of these. -/
theorem eq_first_two_iff {places : List Span} {left right : Span}
    (hsorted : places.Pairwise fun a b => a.offset < b.offset) (hleft : left ∈ places)
    (hright : right ∈ places) (hlt : left.offset < right.offset) :
    ∃ p q, places.head? = some p ∧ places[1]? = some q ∧ p.offset < q.offset ∧
      (p = left ∧ q = right ↔
        ∀ place ∈ places, place.offset < right.offset → place = left) := by
  cases places with
  | nil => exact absurd hleft List.not_mem_nil
  | cons p rest =>
    obtain ⟨hp, hrest⟩ := List.pairwise_cons.1 hsorted
    cases rest with
    | nil =>
      obtain rfl := List.mem_singleton.1 hleft
      obtain rfl := List.mem_singleton.1 hright
      exact absurd hlt (Nat.lt_irrefl _)
    | cons q rest =>
      obtain ⟨hq, -⟩ := List.pairwise_cons.1 hrest
      refine ⟨p, q, rfl, rfl, hp q List.mem_cons_self, ?_⟩
      constructor
      · rintro ⟨rfl, rfl⟩ place hplace hbefore
        rcases List.mem_cons.1 hplace with rfl | hplace
        · rfl
        · exact absurd hbefore (Nat.not_lt.2 (offset_le_of_mem hrest hplace))
      · intro hother
        have hpright : p.offset < right.offset := (offset_le_of_mem hsorted hleft).trans_lt hlt
        obtain rfl : p = left := hother p List.mem_cons_self hpright
        refine ⟨rfl, ?_⟩
        rcases List.mem_cons.1 hright with rfl | hright
        · exact absurd hpright (Nat.lt_irrefl _)
        rcases List.mem_cons.1 hright with rfl | hright
        · rfl
        · obtain rfl : q = p := hother q (by simp) (hq right hright)
          exact absurd (hp q List.mem_cons_self) (Nat.lt_irrefl _)

/-- In a manifest that is written block by block, a duplicate is a name of one scope that repeats an
earlier one. The labels are at the first two places in the text at which the name is given, and these
are the two definitions that clash if and only if no other place stands above the second of them. -/
theorem Manifest.duplicate_labels {doc : Document} {manifest : Manifest}
    {source name context : String} {first second : Option Span} (hwritten : doc.IsWritten source)
    (hnames : doc.Names manifest)
    (h : manifest.toUnit source = .error (.duplicate name context first second)) :
    ∃ scope left right p q, doc.IsScope context scope ∧ IsClash scope name left right ∧
      Span.Covers source left.span name.toList ∧ Span.Covers source right.span name.toList ∧
      first = some p ∧ second = some q ∧ p.offset < q.offset ∧
      Span.Covers source p name.toList ∧ Span.Covers source q name.toList ∧
      (p = left.span ∧ q = right.span ↔
        ∀ place, Span.IsNamePlace source name place → place.offset < right.span.offset →
          place = left.span) := by
  obtain ⟨hname, -⟩ := repeats_of_toUnit h
  obtain ⟨scope, left, right, hscope, hclash⟩ := exists_isClash_of_toUnit hnames h
  obtain ⟨hleft, hright, hlt⟩ := hclash.offset_lt hscope
  have hleftPlace := hscope.isNamePlace hwritten hleft
  have hrightPlace := hscope.isNamePlace hwritten hright
  rw [hclash.left_name] at hleftPlace
  rw [hclash.right_name] at hrightPlace
  obtain ⟨p, q, hp, hq, hpq, hiff⟩ := eq_first_two_iff (Span.names_pairwise source name)
    ((Span.mem_names_iff hname).2 hleftPlace) ((Span.mem_names_iff hname).2 hrightPlace) hlt
  obtain ⟨rfl, rfl⟩ := (toUnit_placed source manifest _ h).places_eq
  refine ⟨scope, left, right, p, q, hscope, hclash, hleftPlace.covers, hrightPlace.covers, hp, hq,
    hpq, Span.covers_of_mem_names (List.mem_of_mem_head? hp),
    Span.covers_of_mem_names (List.mem_of_getElem? hq), ?_⟩
  rw [hiff]
  simp only [Span.mem_names_iff hname]

/-! ### A property that is given twice -/

/-- A declaration with a property that is given twice. -/
def repeatedBlock (owner : String) : DeclarationBlock :=
  ⟨⟨[], "", owner, [""], by simp⟩,
    [⟨[], "", "x", ["type = \"Int\"", ""], by simp⟩,
      ⟨[], "", "x", ["type = \"String\""], by simp⟩]⟩

def repeatedDocument (owner : String) : Document := ⟨[], [repeatedBlock owner]⟩

def repeatedSource (owner : String) : String := joinLines (repeatedDocument owner).lines

def repeatedManifest (owner : String) : Manifest :=
  ⟨⟨"", []⟩, [], ⟨"", Location.defaultFile⟩,
    [⟨owner, none, [], [⟨"x", "Int", []⟩, ⟨"x", "String", []⟩]⟩]⟩

theorem toUnit_repeatedManifest (owner : String) {source : String} {places : List Span}
    (howner : Name.check source "declaration" owner = .ok ())
    (hplaces : Span.namesIn source "x" '"' = places)
    (hquote : '\'' ∉ source.toList) :
    (repeatedManifest owner).toUnit source =
      .error (.duplicate "x" (Manifest.propertyContext owner) places.head? places[1]?) := by
  have hscan : TypeExpr.scan 0 "Int".toList = .ok [⟨.name "Int", 0⟩, ⟨.finish, 3⟩] := by
    decide +kernel
  have hint : TypeExpr.parse "Int" = .ok (.mk "Int" false []) :=
    (TypeExpr.parse_eq_run hscan).trans
      ((TypeExpr.Reader.run_eq_of_step rfl).trans (TypeExpr.Reader.run_eq_of_stop rfl))
  have hfile : Name.check source "output file" Location.defaultFile = .ok () := rfl
  have hproperty : Name.check source (Manifest.propertyContext owner) "x" = .ok () := rfl
  have hnames : Span.names source "x" = places := (Span.names_of_not_mem "x" hquote).trans hplaces
  simp [repeatedManifest, Manifest.toUnit, Manifest.checkImports, Manifest.declarationsOf,
    Manifest.declarationOf, Manifest.propertiesOf, Manifest.typeOf, Manifest.kindOf,
    Manifest.checkFresh, Name.checkDotted, howner, hfile, hproperty, hint, hnames, bind,
    Except.bind]

theorem Manifest.duplicate_labels_of_repeated_property :
    ∃ scope left right p q,
      (repeatedManifest "E").toUnit (repeatedSource "E") =
        .error (.duplicate "x" (propertyContext "E") (some p) (some q)) ∧
      (repeatedDocument "E").IsScope (propertyContext "E") scope ∧ IsClash scope "x" left right ∧
      (p = left.span ∧ q = right.span ↔
        ∀ place, Span.IsNamePlace (repeatedSource "E") "x" place →
          place.offset < right.span.offset → place = left.span) := by
  have hplaces : Span.namesIn (repeatedSource "E") "x" '"' = [⟨65, 1⟩, ⟨118, 1⟩] := by
    decide +kernel
  have herror := toUnit_repeatedManifest "E" rfl hplaces (by decide +kernel)
  have hnames : (repeatedDocument "E").Names (repeatedManifest "E") := rfl
  obtain ⟨scope, left, right, p, q, hscope, hclash, -, -, hp, hq, -, -, -, hiff⟩ :=
    Manifest.duplicate_labels (.inl rfl) hnames herror
  rw [hp, hq] at herror
  exact ⟨scope, left, right, p, q, herror, hscope, hclash, hiff⟩

/-- Where the declaration has the name of the property, the labels are at its name and at the first
of the two properties. -/
theorem Manifest.duplicate_labels_miss_clash :
    Manifest.read (repeatedSource "x") = .ok (repeatedManifest "x") ∧
      ∃ first second scope left right,
        (repeatedManifest "x").toUnit (repeatedSource "x") =
          .error (.duplicate "x" (propertyContext "x") (some first) (some second)) ∧
        (repeatedDocument "x").IsScope (propertyContext "x") scope ∧
        IsClash scope "x" left right ∧ first ≠ left.span ∧ second = left.span := by
  have hread : Manifest.read (repeatedSource "x") = .ok (repeatedManifest "x") := by
    decide +kernel
  have hplaces : Span.namesIn (repeatedSource "x") "x" '"' = [⟨25, 1⟩, ⟨65, 1⟩, ⟨118, 1⟩] := by
    decide +kernel
  have herror := toUnit_repeatedManifest "x" rfl hplaces (by decide +kernel)
  have hscope : (repeatedDocument "x").IsScope (propertyContext "x") _ :=
    @Document.IsScope.properties (repeatedDocument "x") [] [] (repeatedBlock "x") rfl (by simp)
  refine ⟨hread, ⟨25, 1⟩, ⟨65, 1⟩, _, _, _, herror, hscope,
    ⟨[], [], [], rfl, rfl, rfl, by simp⟩, ?_, ?_⟩
  · decide +kernel
  · decide +kernel

end FunctionForge
