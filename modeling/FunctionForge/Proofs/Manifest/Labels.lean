import FunctionForge.Manifest.File
import FunctionForge.Proofs.Manifest.Places
import FunctionForge.Proofs.Manifest.Rules
import FunctionForge.Proofs.TypeExpr.Refusal

/-!
# Where the errors of a manifest point

A name or a value is looked up as it is written, so a label covers all of it. In a type that is no
type expression the label has the length of one byte, which is a character only where one byte makes
one.
-/

namespace FunctionForge

open Text

/-! ### How the places were found -/

/-- A property of every error that a result may be. -/
def Fails {α : Type} (P : ManifestError → Prop) (result : Except ManifestError α) : Prop :=
  ∀ e, result = .error e → P e

namespace Fails

variable {α β : Type} {P : ManifestError → Prop}

theorem ok (a : α) : Fails P (.ok a) := nofun

theorem error {e : ManifestError} (h : P e) : Fails (α := α) P (.error e) := by
  rintro _ ⟨⟩
  exact h

theorem bind {result : Except ManifestError α} {next : α → Except ManifestError β}
    (h : Fails P result) (hnext : ∀ a, Fails P (next a)) : Fails P (result >>= next) := by
  cases result with
  | error e =>
    rintro _ ⟨⟩
    exact h e rfl
  | ok a => exact hnext a

theorem map {result : Except ManifestError α} {f : α → β} (h : Fails P result) :
    Fails P (result >>= fun a => pure (f a)) := h.bind fun a => ok (f a)

end Fails

/-- The places of an error are those that the searches for its name or value find. -/
inductive ManifestError.Placed (source : String) : ManifestError → Prop
  | keyword (name context : String) :
      Placed source (.keyword name context (Span.name? source name))
  | identifier (name context reason : String) :
      Placed source (.identifier name context reason (Span.name? source name))
  | dotted (name context reason : String) :
      Placed source (.identifier name context reason (Span.value? source name))
  | duplicate (name context : String) :
      Placed source (.duplicate name context (Span.names source name).head?
        (Span.names source name)[1]?)
  | conflict (name other : String) :
      Placed source (.invalid ("import '" ++ name ++ "' conflicts with '" ++ other ++ "'")
        (Span.value? source name))
  | badType {text : String} {e : TypeExpr.ParseError} (h : TypeExpr.parse text = .error e) :
      Placed source (.badType text e.message (Span.type? source text e.offset))
  | unknownKind (name : String) : Placed source (.unknownKind name (Span.value? source name))

variable (source : String)

theorem Name.check_placed (context name : String) :
    Fails (ManifestError.Placed source) (check source context name) := by
  rw [check]
  split
  · exact .error (.keyword name context)
  · split
    · exact .error (.identifier name context _)
    · exact .ok ()

theorem Name.checkDotted_placed (context name : String) :
    Fails (ManifestError.Placed source) (checkDotted source context name) := by
  rw [checkDotted]
  split
  · exact .ok ()
  · split
    · exact .error (.dotted name context _)
    · exact .ok ()

namespace Manifest

theorem checkFresh_placed (context : String) (seen : List String) (name : String) :
    Fails (ManifestError.Placed source) (checkFresh source context seen name) := by
  rw [checkFresh]
  split
  · exact .error (.duplicate name context)
  · exact .ok ()

theorem checkImports_placed (seen names : List String) :
    Fails (ManifestError.Placed source) (checkImports source seen names) := by
  induction names generalizing seen with
  | nil => exact .ok ()
  | cons name rest ih =>
    apply (Name.checkDotted_placed source "import" name).bind
    intro _
    split
    · exact .error (.conflict name _)
    · exact ih (name :: seen)

theorem kindOf_placed (kind : Option String) : Fails (ManifestError.Placed source) (kindOf source kind) := by
  cases kind with
  | none => exact .ok _
  | some name =>
    rw [kindOf]
    split
    · exact .ok _
    · exact .error (.unknownKind name)

theorem typeOf_placed (text : String) : Fails (ManifestError.Placed source) (typeOf source text) := by
  rw [typeOf]
  split
  · exact .ok _
  · next h => exact .error (.badType h)

theorem propertiesOf_placed (owner : String) (seen : List String)
    (entries : List PropertyEntry) :
    Fails (ManifestError.Placed source) (propertiesOf source owner seen entries) := by
  induction entries generalizing seen with
  | nil => exact .ok []
  | cons entry rest ih =>
    apply (Name.check_placed source (propertyContext owner) entry.name).bind
    intro _
    apply (checkFresh_placed source (propertyContext owner) seen entry.name).bind
    intro _
    apply (typeOf_placed source entry.type).bind
    intro type
    exact (ih (entry.name :: seen)).map

theorem declarationOf_placed (package : String) (entry : DeclarationEntry) :
    Fails (ManifestError.Placed source) (declarationOf source package entry) := by
  apply (kindOf_placed source entry.kind).bind
  intro kind
  exact (propertiesOf_placed source entry.name [] entry.properties).map

theorem declarationsOf_placed (package : String) (seen : List String)
    (entries : List DeclarationEntry) :
    Fails (ManifestError.Placed source) (declarationsOf source package seen entries) := by
  induction entries generalizing seen with
  | nil => exact .ok []
  | cons entry rest ih =>
    apply (Name.check_placed source "declaration" entry.name).bind
    intro _
    apply (checkFresh_placed source "declaration" seen entry.name).bind
    intro _
    apply (declarationOf_placed source package entry).bind
    intro declaration
    exact (ih (entry.name :: seen)).map

theorem toUnit_placed (manifest : Manifest) :
    Fails (ManifestError.Placed source) (manifest.toUnit source) := by
  apply (Name.checkDotted_placed source "package" manifest.source.package).bind
  intro _
  apply (Name.checkDotted_placed source "output package" manifest.output.package).bind
  intro _
  apply (Name.check_placed source "output file" manifest.output.file).bind
  intro _
  apply (checkImports_placed source [] manifest.source.imports).bind
  intro _
  exact (declarationsOf_placed source manifest.source.package [] manifest.declarations).map

end Manifest

/-! ### What the labels cover -/

/-- The name or value that an error is about. -/
inductive ManifestError.IsAbout : ManifestError → String → Prop
  | keyword (name context : String) (span : Option Span) : IsAbout (.keyword name context span) name
  | identifier (name context reason : String) (span : Option Span) :
      IsAbout (.identifier name context reason span) name
  | duplicate (name context : String) (first second : Option Span) :
      IsAbout (.duplicate name context first second) name
  | conflict (name other : String) (span : Option Span) :
      IsAbout (.invalid ("import '" ++ name ++ "' conflicts with '" ++ other ++ "'") span) name
  | unknownKind (name : String) (span : Option Span) : IsAbout (.unknownKind name span) name

variable {source}

/-- A label has the place that was found for it. -/
theorem span_eq_of_mem_label {text : String} {span : Option Span} {label : Label}
    (h : label ∈ ManifestError.label text span) : span = some label.span := by
  cases span with
  | none => exact absurd h List.not_mem_nil
  | some place =>
    obtain rfl := List.mem_singleton.1 h
    rfl

theorem Span.covers_of_name? {name : String} {span : Span} (h : name? source name = some span) :
    Covers source span name.toList := covers_of_mem_names (List.mem_of_mem_head? h)

/-- An error that is not about a type points at the whole name or value that it is about. -/
theorem ManifestError.Placed.covers {e : ManifestError} (h : Placed source e)
    (hkind : e.kind ≠ .badType) :
    ∃ value, e.IsAbout value ∧ ∀ label ∈ e.labels, Span.Covers source label.span value.toList := by
  cases h with
  | keyword name context =>
    refine ⟨name, .keyword name context _, ?_⟩
    intro label hlabel
    exact Span.covers_of_name? (span_eq_of_mem_label hlabel)
  | identifier name context reason =>
    refine ⟨name, .identifier name context reason _, ?_⟩
    intro label hlabel
    exact Span.covers_of_name? (span_eq_of_mem_label hlabel)
  | dotted name context reason =>
    refine ⟨name, .identifier name context reason _, ?_⟩
    intro label hlabel
    exact Span.covers_of_value? (span_eq_of_mem_label hlabel)
  | duplicate name context =>
    refine ⟨name, .duplicate name context _ _, ?_⟩
    intro label hlabel
    rcases List.mem_append.1 hlabel with hfirst | hsecond
    · exact Span.covers_of_name? (span_eq_of_mem_label hfirst)
    · exact Span.covers_of_mem_names (List.mem_of_getElem? (span_eq_of_mem_label hsecond))
  | conflict name other =>
    refine ⟨name, .conflict name other _, ?_⟩
    intro label hlabel
    exact Span.covers_of_value? (span_eq_of_mem_label hlabel)
  | badType => exact absurd rfl hkind
  | unknownKind name =>
    refine ⟨name, .unknownKind name _, ?_⟩
    intro label hlabel
    exact Span.covers_of_value? (span_eq_of_mem_label hlabel)

/-- An offset in a text points at a character: the one that starts there, or the last one where the
text ends. -/
inductive PointsAt (text : List Char) (offset : Nat) (before : List Char) (c : Char) : Prop
  | start (after : List Char) (htext : text = before ++ c :: after)
      (hoffset : offset = byteLength before)
  | last (htext : text = before ++ [c]) (hoffset : offset = byteLength text)

theorem exists_pointsAt {text : String} {offset : Nat} (h : IsBoundary text offset)
    (htext : text ≠ "") : ∃ before c, PointsAt text.toList offset before c := by
  obtain ⟨before, after, hsplit, rfl⟩ := isBoundary_iff.1 h
  cases after with
  | cons c after => exact ⟨before, c, .start after hsplit rfl⟩
  | nil =>
    rw [List.append_nil] at hsplit
    have hne : text.toList ≠ [] := fun hnil => htext (String.toList_eq_nil_iff.1 hnil)
    refine ⟨text.toList.dropLast, text.toList.getLast hne, .last ?_ ?_⟩
    · exact (List.dropLast_append_getLast hne).symm
    · rw [hsplit]

/-- The place of a type is that of the character pointed at, if this takes one byte. -/
theorem PointsAt.min_offset {text before : List Char} {offset : Nat} {c : Char}
    (h : PointsAt text offset before c) (hc : c.utf8Size = 1) :
    min offset (byteLength text - 1) = byteLength before := by
  cases h with
  | start after htext hoffset =>
    rw [htext, hoffset, byteLength_append, byteLength_cons]
    omega
  | last htext hoffset =>
    rw [hoffset, htext, byteLength_append, byteLength_cons, byteLength_nil]
    omega

/-- Otherwise the place, which is one byte long, has an end inside that character. -/
theorem PointsAt.inside {text before : List Char} {offset : Nat} {c : Char}
    (h : PointsAt text offset before c) (hc : c.utf8Size ≠ 1) :
    ∃ place, (place = min offset (byteLength text - 1) ∨
        place = min offset (byteLength text - 1) + 1) ∧
      byteLength before < place ∧ place < byteLength before + c.utf8Size := by
  have hpos := c.utf8Size_pos
  cases h with
  | start after htext hoffset =>
    refine ⟨_, .inr rfl, ?_⟩
    rw [htext, hoffset, byteLength_append, byteLength_cons]
    omega
  | last htext hoffset =>
    refine ⟨_, .inl rfl, ?_⟩
    rw [hoffset, htext, byteLength_append, byteLength_cons, byteLength_nil]
    omega

theorem PointsAt.exists_after {text before : List Char} {offset : Nat} {c : Char}
    (h : PointsAt text offset before c) : ∃ after, text = before ++ c :: after := by
  cases h with
  | start after htext _ => exact ⟨after, htext⟩
  | last htext _ => exact ⟨[], htext⟩

theorem Span.exists_of_type? {text : String} {offset : Nat} {span : Span}
    (h : type? source text offset = some span) :
    ∃ front quote after, quote ∈ quotes ∧ source.toList = front ++ quoted quote text ++ after ∧
      span = ⟨byteLength front + 1 + min offset (size text - 1), 1⟩ := by
  obtain ⟨place, hplace, rfl⟩ := Option.map_eq_some_iff.1 h
  obtain ⟨front, quote, after, hquote, hsource, rfl⟩ := exists_of_value? hplace
  exact ⟨front, quote, after, hquote, hsource, rfl⟩

theorem Span.byteLength_quoted {quote : Char} {value : String} (hquote : quote ∈ quotes) :
    byteLength (quoted quote value) = size value + 2 := by
  rw [quoted, byteLength_append, byteLength_cons, byteLength_cons, byteLength_nil,
    utf8Size_of_mem_quotes hquote, size]
  omega

theorem Span.le_size_of_type? {text : String} {offset : Nat} {span : Span}
    (h : type? source text offset = some span) : span.offset + span.length ≤ size source := by
  obtain ⟨front, quote, after, hquote, hsource, rfl⟩ := exists_of_type? h
  have hsize : size source = byteLength front + (size text + 2) + byteLength after := by
    rw [size, hsource, byteLength_append, byteLength_append, byteLength_quoted hquote]
  show byteLength front + 1 + min offset (size text - 1) + 1 ≤ size source
  omega

/-- A label lies in the source. -/
theorem ManifestError.Placed.le_size {e : ManifestError} (h : Placed source e) :
    ∀ label ∈ e.labels, label.span.offset + label.span.length ≤ size source := by
  intro label hlabel
  by_cases hkind : e.kind = .badType
  · cases h with
    | badType => exact Span.le_size_of_type? (span_eq_of_mem_label hlabel)
    | _ => simp [kind] at hkind
  · obtain ⟨value, -, hcovers⟩ := h.covers hkind
    exact (hcovers label hlabel).le_size

/-- The place of a byte of a quoted type covers the character pointed at if this takes one byte, and
otherwise one of its ends lies inside that character. -/
theorem isBoundary_iff_of_pointsAt {text : String} {offset : Nat} {before front after : List Char}
    {c quote : Char} (hquote : quote ∈ Span.quotes)
    (hsource : source.toList = front ++ Span.quoted quote text ++ after)
    (hc : PointsAt text.toList offset before c) {span : Span}
    (hspan : span = ⟨byteLength front + 1 + min offset (size text - 1), 1⟩) :
    (span = ⟨byteLength (front ++ quote :: before), c.utf8Size⟩ ↔ c.utf8Size = 1) ∧
      (IsBoundary source span.offset ∧ IsBoundary source (span.offset + span.length) ↔
        c.utf8Size = 1) := by
  obtain ⟨rest, hrest⟩ := hc.exists_after
  have hfront : byteLength (front ++ quote :: before) = byteLength front + 1 + byteLength before := by
    rw [byteLength_append, byteLength_cons, Span.utf8Size_of_mem_quotes hquote, Nat.add_assoc]
  have hsplit : source.toList = (front ++ quote :: before) ++ c :: (rest ++ quote :: after) := by
    rw [hsource, Span.quoted, hrest]
    simp
  have hcovers : c.utf8Size = 1 → span = ⟨byteLength (front ++ quote :: before), c.utf8Size⟩ := by
    intro h
    rw [hspan, size, hc.min_offset h, hfront, h]
  constructor
  · refine ⟨?_, hcovers⟩
    intro h
    rw [hspan] at h
    exact (congrArg Span.length h).symm
  · constructor
    · rintro ⟨hstart, hend⟩
      by_contra hne
      obtain ⟨place, hplace, hlow, hhigh⟩ := hc.inside hne
      rw [hspan] at hstart hend
      have hinside : ¬IsBoundary source (byteLength front + 1 + place) := by
        apply not_isBoundary_inside hsplit
        · omega
        · omega
      rcases hplace with rfl | rfl
      · exact hinside hstart
      · exact hinside hend
    · intro h
      have hspan' : Span.Covers source span [c] := by
        refine ⟨front ++ quote :: before, rest ++ quote :: after, ?_, ?_, ?_⟩
        · rw [hsplit]
          simp
        · rw [hcovers h]
        · rw [hcovers h, byteLength_cons, byteLength_nil, Nat.add_zero]
      exact hspan'.isBoundary

/-- A label lies in the source. One that is not about a type covers the whole name or value that its
error is about. One that is about an empty text in place of a type covers the closing quote, and about
another text it covers the character pointed at if and only if this takes one byte; otherwise an end
of the label is no boundary. -/
theorem Manifest.toUnit_error_labels {manifest : Manifest} {e : ManifestError}
    (h : manifest.toUnit source = .error e) :
    (∀ label ∈ e.labels, label.span.offset + label.span.length ≤ size source) ∧
    (e.kind ≠ .badType → ∃ value, e.IsAbout value ∧
      ∀ label ∈ e.labels, Span.Covers source label.span value.toList) ∧
    ∀ text reason span, e = .badType text reason (some span) →
      ∃ fault front quote after, TypeExpr.parse text = .error fault ∧ reason = fault.message ∧
        quote ∈ Span.quotes ∧ source.toList = front ++ Span.quoted quote text ++ after ∧
        (text = "" → span = ⟨byteLength (front ++ [quote]), quote.utf8Size⟩) ∧
        (text ≠ "" → ∃ before c, PointsAt text.toList fault.offset before c ∧
          (span = ⟨byteLength (front ++ quote :: before), c.utf8Size⟩ ↔ c.utf8Size = 1) ∧
          (IsBoundary source span.offset ∧ IsBoundary source (span.offset + span.length) ↔
            c.utf8Size = 1)) := by
  have hplaced := toUnit_placed source manifest e h
  refine ⟨hplaced.le_size, hplaced.covers, ?_⟩
  rintro text reason span rfl
  generalize hspan : some span = found at hplaced
  cases hplaced with
  | @badType _ fault hparse =>
    obtain ⟨front, quote, after, hquote, hsource, hplace⟩ := Span.exists_of_type? hspan.symm
    refine ⟨fault, front, quote, after, hparse, rfl, hquote, hsource, ?_, ?_⟩
    · rintro rfl
      rw [hplace, byteLength_append, byteLength_cons, Span.utf8Size_of_mem_quotes hquote]
      simp [size]
    · intro htext
      obtain ⟨before, c, hc⟩ := exists_pointsAt (TypeExpr.isBoundary_of_parse hparse) htext
      exact ⟨before, c, hc, isBoundary_iff_of_pointsAt hquote hsource hc hplace⟩

/-! ### Two types in a manifest -/

/-- A manifest with one property, whose type is the given text. -/
def typedManifest (type : String) : Manifest :=
  ⟨⟨"", []⟩, [], ⟨"", Location.defaultFile⟩, [⟨"E", none, [], [⟨"x", type, []⟩]⟩]⟩

def typedSource (type : String) : String :=
  "[[declarations]]\nname = \"E\"\n\n[[declarations.properties]]\nname = \"x\"\ntype = \"" ++ type ++
    "\"\n"

theorem Manifest.toUnit_error_labels_of_semicolon :
    ∃ span fault before c, TypeExpr.parse "Map<String; Int>" = .error fault ∧
      (typedManifest "Map<String; Int>").toUnit (typedSource "Map<String; Int>") =
        .error (.badType "Map<String; Int>" fault.message (some span)) ∧
      span.offset + span.length ≤ size (typedSource "Map<String; Int>") ∧
      PointsAt "Map<String; Int>".toList fault.offset before c ∧
      (IsBoundary (typedSource "Map<String; Int>") span.offset ∧
        IsBoundary (typedSource "Map<String; Int>") (span.offset + span.length) ↔
          c.utf8Size = 1) := by
  have herror : (typedManifest "Map<String; Int>").toUnit (typedSource "Map<String; Int>") =
      .error (.badType "Map<String; Int>" "unexpected character ';' at offset 10"
        (some ⟨86, 1⟩)) := by
    -- Units cannot be compared, so what a result would be is left out.
    apply error_of_map_eq_error (f := fun _ => ())
    decide +kernel
  obtain ⟨hsize, -, htype⟩ := Manifest.toUnit_error_labels herror
  obtain ⟨fault, front, quote, after, hparse, hreason, -, -, -, hpoints⟩ := htype _ _ _ rfl
  obtain ⟨before, c, hc, -, hboundary⟩ := hpoints (by decide)
  refine ⟨⟨86, 1⟩, fault, before, c, hparse, ?_, hsize _ (List.mem_singleton.2 rfl), hc, hboundary⟩
  rw [herror, hreason]

/-- A label of one byte cannot cover a character of three. -/
theorem Manifest.label_ends_inside_wide_character :
    Manifest.read (typedSource "List<€>") = .ok (typedManifest "List<€>") ∧
      ∃ e label, (typedManifest "List<€>").toUnit (typedSource "List<€>") = .error e ∧
        label ∈ e.labels ∧
        ¬IsBoundary (typedSource "List<€>") (label.span.offset + label.span.length) := by
  have hread : Manifest.read (typedSource "List<€>") = .ok (typedManifest "List<€>") := by
    decide +kernel
  have herror : (typedManifest "List<€>").toUnit (typedSource "List<€>") =
      .error (.badType "List<€>" "unexpected character '€' at offset 5" (some ⟨81, 1⟩)) := by
    apply error_of_map_eq_error (f := fun _ => ())
    decide +kernel
  have hsplit : (typedSource "List<€>").toList = (typedSource "List<€>").toList.take 81 ++
      '€' :: (typedSource "List<€>").toList.drop 82 := by decide +kernel
  refine ⟨hread, _, ⟨⟨81, 1⟩, "unexpected character '€' at offset 5"⟩, herror,
    List.mem_singleton.2 rfl, ?_⟩
  apply not_isBoundary_inside hsplit
  · decide +kernel
  · decide +kernel

end FunctionForge
