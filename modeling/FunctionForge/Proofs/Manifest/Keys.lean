import FunctionForge.Command.Line
import FunctionForge.Control
import FunctionForge.Manifest.File
import FunctionForge.Proofs.List
import FunctionForge.Proofs.Output.Answer

/-!
# Keys of an accepted manifest

A manifest has parts of six kinds, and each kind names the keys of its tables and what stands under
each of them. Five kinds are read as records, which take no other key. An annotation is tried as a
bare name and then as a table, of which only the keys that it needs are looked up: other keys are
ignored.
-/

namespace FunctionForge

namespace Manifest

open Toml (Value)
open Schema (readArray readAny readAnyEntries annotationEntry? readAnnotation)

/-! ### The parts of a manifest -/

/-- A part of a manifest that may be a table with keys of its own. -/
inductive Part where
  | manifest
  | sourceSection
  | outputSection
  | declarationEntry
  | propertyEntry
  | annotationEntry
  deriving DecidableEq, Repr

/-- What stands under a key: nothing with keys that the schema names, one part, or a list. -/
inductive Content where
  | free
  | one (part : Part)
  | many (part : Part)
  deriving DecidableEq, Repr

namespace Part

/-- The keys that the schema names for a part, with what stands under them. -/
def fields : Part → List (String × Content)
  | manifest => [("source", .one sourceSection), ("options", .free),
      ("output", .one outputSection), ("declarations", .many declarationEntry)]
  | sourceSection => [("package", .free), ("imports", .free)]
  | outputSection => [("package", .free), ("file", .free)]
  | declarationEntry => [("name", .free), ("kind", .free), ("annotations", .many annotationEntry),
      ("properties", .many propertyEntry)]
  | propertyEntry => [("name", .free), ("type", .free), ("annotations", .many annotationEntry)]
  | annotationEntry => [("name", .free), ("arguments", .free)]

def keys (part : Part) : List String := part.fields.map Prod.fst

/-- What a part states under its keys. In an array the values come in the order of the keys. -/
def children (part : Part) : Value → List (Content × Value)
  | .table entries => entries.filterMap fun (key, v) => (part.fields.lookup key).map (·, v)
  | .array items => (part.fields.map Prod.snd).zip items
  | _ => []

end Part

/-- The parts that stand under a key. -/
def Content.placed : Content → Value → List (Part × Value)
  | free, _ => []
  | one part, v => [(part, v)]
  | many part, .array items => items.map (part, ·)
  | many _, _ => []

/-- The parts directly within a part. -/
def Part.within (part : Part) (v : Value) : List (Part × Value) :=
  (part.children v).flatMap fun (content, child) => content.placed child

/-- A value that stands in a document where the schema expects a part. -/
inductive Stands (document : Value) : Part → Value → Prop where
  | root : Stands document .manifest document
  | inner {outer inner : Part} {v child : Value} (houter : Stands document outer v)
      (hin : (inner, child) ∈ outer.within v) : Stands document inner child

/-! ### What is accepted -/

/-- A value that is read as the part that is expected. -/
def Part.Accepts : Part → Value → Prop
  | manifest, v => ∃ manifest, record.read v = .ok manifest
  | sourceSection, v => ∃ source, sourceRecord.read v = .ok source
  | outputSection, v => ∃ output, outputRecord.read v = .ok output
  | declarationEntry, v => ∃ entry, declarationRecord.read v = .ok entry
  | propertyEntry, v => ∃ entry, propertyRecord.read v = .ok entry
  | annotationEntry, v => ∃ entry, readAnnotation v = .ok entry

def Content.Accepts : Content → Value → Prop
  | free, _ => True
  | one part, v => part.Accepts v
  | many part, v => ∃ items, v = .array items ∧ ∀ item ∈ items, part.Accepts item

theorem Content.Accepts.placed {content : Content} {inner : Part} {v child : Value}
    (h : content.Accepts v) (hin : (inner, child) ∈ content.placed v) : inner.Accepts child := by
  cases content with
  | free => exact absurd hin List.not_mem_nil
  | one part =>
    cases List.mem_singleton.1 hin
    exact h
  | many part =>
    obtain ⟨items, rfl, hitems⟩ := h
    obtain ⟨item, hitem, heq⟩ := List.mem_map.1 hin
    cases heq
    exact hitems child hitem

/-- A field that has the key of an entry of the schema, and takes only what may stand under it. -/
structure Matches {α : Type} (expected : String × Content) (field : Field α) : Prop where
  name : field.name = expected.1
  accepts (v : Value) (draft next : α) (h : field.read v draft = .ok next) : expected.2.Accepts v

/-- A record that has the fields of a part, in their order. -/
def Describes {α : Type} (part : Part) (record : Record α) : Prop :=
  List.Forall₂ Matches part.fields record.fields

section Records

variable {α : Type} {part : Part} {record : Record α}

/-- Looking a key up in the schema stops where the search for its field does. -/
theorem exists_lookup_of_find? {expected : List (String × Content)} {fields : List (Field α)}
    (h : List.Forall₂ Matches expected fields) {key : String} {field : Field α}
    (hfind : fields.find? (fun field => field.name = key) = some field) :
    ∃ content, expected.lookup key = some content ∧ Matches (key, content) field := by
  induction h with
  | nil => exact nomatch hfind
  | @cons first other others fields hfirst hrest ih =>
    obtain ⟨name, content⟩ := first
    have hname : other.name = name := hfirst.name
    by_cases hkey : key = name
    · subst hkey
      simp only [List.find?_cons, hname, decide_true, Option.some.injEq] at hfind
      exact ⟨content, List.lookup_cons_self, hfind ▸ hfirst⟩
    · simp only [List.find?_cons, hname, Ne.symm hkey, decide_false] at hfind
      obtain ⟨found, hlookup, hmatches⟩ := ih hfind
      exact ⟨found, (lookup_cons_of_ne hkey).trans hlookup, hmatches⟩

theorem exists_field_of_mem_zip {expected : List (String × Content)} {fields : List (Field α)}
    (h : List.Forall₂ Matches expected fields) {items : List Value} {content : Content} {v : Value}
    (hitem : (content, v) ∈ (expected.map Prod.snd).zip items) :
    ∃ key field, Matches (key, content) field ∧ (field, v) ∈ fields.zip items := by
  induction h generalizing items with
  | nil => exact absurd hitem List.not_mem_nil
  | @cons first field others fields hfirst hrest ih =>
    cases items with
    | nil => exact absurd hitem List.not_mem_nil
    | cons item items =>
      rcases List.mem_cons.1 hitem with heq | hitem
      · cases heq
        exact ⟨first.1, field, hfirst, .head _⟩
      · obtain ⟨key, found, hmatches, hmem⟩ := ih hitem
        exact ⟨key, found, hmatches, .tail _ hmem⟩

/-- A table that is read as a record has only keys of its part, each with what may stand there. -/
theorem Describes.entry (h : Describes part record) {entries : List (String × Value)} {a : α}
    (hread : record.read (.table entries) = .ok a) {key : String} {v : Value}
    (hentry : (key, v) ∈ entries) :
    ∃ content, part.fields.lookup key = some content ∧ content.Accepts v := by
  obtain ⟨draft, hfold, -⟩ := exists_of_bind_eq_ok hread
  obtain ⟨before, after, hstep⟩ := exists_of_foldlM_eq_ok hfold hentry
  cases hfind : record.fields.find? (fun field => field.name = key) with
  | none =>
    rw [Record.readEntry, hfind] at hstep
    exact nomatch hstep
  | some field =>
    rw [Record.readEntry, hfind] at hstep
    obtain ⟨content, hlookup, hmatches⟩ := exists_lookup_of_find? h hfind
    exact ⟨content, hlookup, hmatches.accepts v before after hstep⟩

theorem Describes.mem_keys (h : Describes part record) {entries : List (String × Value)} {a : α}
    (hread : record.read (.table entries) = .ok a) {key : String}
    (hkey : key ∈ entries.map Prod.fst) : key ∈ part.keys := by
  obtain ⟨⟨key, v⟩, hentry, rfl⟩ := List.mem_map.1 hkey
  obtain ⟨content, hlookup, -⟩ := h.entry hread hentry
  exact List.mem_map_of_mem (mem_of_lookup hlookup)

/-- What a part states is accepted where it stands, in a table as in an array. -/
theorem Describes.children (h : Describes part record) {v : Value} {a : α}
    (hread : record.read v = .ok a) {content : Content} {child : Value}
    (hchild : (content, child) ∈ part.children v) : content.Accepts child := by
  cases v with
  | table entries =>
    obtain ⟨⟨key, value⟩, hentry, hlookup⟩ := List.mem_filterMap.1 hchild
    obtain ⟨found, hfound, heq⟩ := Option.map_eq_some_iff.1 hlookup
    obtain ⟨content', hcontent, haccepts⟩ := h.entry hread hentry
    cases heq
    cases hfound.symm.trans hcontent
    exact haccepts
  | array items =>
    obtain ⟨draft, hfold, -⟩ := exists_of_bind_eq_ok hread
    obtain ⟨key, field, hmatches, hmem⟩ := exists_field_of_mem_zip h hchild
    obtain ⟨before, after, hstep⟩ := exists_of_foldlM_eq_ok hfold hmem
    exact hmatches.accepts child before after hstep
  | _ => exact absurd hchild List.not_mem_nil

/-- A field matches an entry of the schema if its reader takes only what may stand there. -/
theorem Matches.of_read {β : Type} {name : String} {content : Content}
    {read : Value → Except SchemaFault β} (set : β → α → α) (required : Bool)
    (hread : ∀ v b, read v = .ok b → content.Accepts v) :
    Matches (name, content)
      ⟨name, required, fun v draft => do return set (← read v) draft⟩ where
  name := rfl
  accepts v _ _ h := by
    obtain ⟨b, hb, -⟩ := exists_of_bind_eq_ok h
    exact hread v b hb

end Records

theorem accepts_of_readArray {β : Type} {read : Value → Except SchemaFault β} {part : Part}
    (hread : ∀ v b, read v = .ok b → part.Accepts v) (v : Value) (results : List β)
    (h : readArray read v = .ok results) : (Content.many part).Accepts v := by
  cases v with
  | array items =>
    refine ⟨items, rfl, fun item hitem => ?_⟩
    obtain ⟨b, hb⟩ := exists_of_mapM_eq_ok h hitem
    exact hread item b hb
  | _ => exact nomatch h

/-! ### The records of the schema -/

theorem describes_source : Describes .sourceSection sourceRecord :=
  .cons (.of_read _ _ fun _ _ _ => trivial) <| .cons (.of_read _ _ fun _ _ _ => trivial) .nil

theorem describes_output : Describes .outputSection outputRecord :=
  .cons (.of_read _ _ fun _ _ _ => trivial) <| .cons (.of_read _ _ fun _ _ _ => trivial) .nil

theorem describes_property : Describes .propertyEntry propertyRecord :=
  .cons (.of_read _ _ fun _ _ _ => trivial) <|
  .cons (.of_read _ _ fun _ _ _ => trivial) <|
  .cons (.of_read _ _ (accepts_of_readArray fun _ entry h => ⟨entry, h⟩)) .nil

theorem describes_declaration : Describes .declarationEntry declarationRecord :=
  .cons (.of_read _ _ fun _ _ _ => trivial) <|
  .cons (.of_read _ _ fun _ _ _ => trivial) <|
  .cons (.of_read _ _ (accepts_of_readArray fun _ entry h => ⟨entry, h⟩)) <|
  .cons (.of_read _ _ (accepts_of_readArray fun _ entry h => ⟨entry, h⟩)) .nil

theorem describes_manifest : Describes .manifest record :=
  .cons (.of_read _ _ fun _ source h => ⟨source, h⟩) <|
  .cons (.of_read _ _ fun _ _ _ => trivial) <|
  .cons (.of_read _ _ fun _ output h => ⟨output, h⟩) <|
  .cons (.of_read _ _ (accepts_of_readArray fun _ entry h => ⟨entry, h⟩)) .nil

/-- An accepted part was read as the record that describes it, unless it is an annotation. -/
theorem Part.Accepts.exists_record {part : Part} {v : Value} (h : part.Accepts v)
    (hpart : part ≠ .annotationEntry) :
    ∃ (α : Type) (record : Record α) (a : α), Describes part record ∧ record.read v = .ok a := by
  cases part with
  | manifest =>
    obtain ⟨a, ha⟩ := h
    exact ⟨_, _, a, describes_manifest, ha⟩
  | sourceSection =>
    obtain ⟨a, ha⟩ := h
    exact ⟨_, _, a, describes_source, ha⟩
  | outputSection =>
    obtain ⟨a, ha⟩ := h
    exact ⟨_, _, a, describes_output, ha⟩
  | declarationEntry =>
    obtain ⟨a, ha⟩ := h
    exact ⟨_, _, a, describes_declaration, ha⟩
  | propertyEntry =>
    obtain ⟨a, ha⟩ := h
    exact ⟨_, _, a, describes_property, ha⟩
  | annotationEntry => exact absurd rfl hpart

/-- Nothing within an annotation has keys of its own. -/
theorem within_annotationEntry (v : Value) : Part.annotationEntry.within v = [] := by
  refine List.flatMap_eq_nil_iff.2 fun ⟨content, child⟩ hchild => ?_
  have hcontents : content ∈ Part.annotationEntry.fields.map Prod.snd := by
    cases v with
    | table entries =>
      obtain ⟨⟨key, value⟩, -, hlookup⟩ := List.mem_filterMap.1 hchild
      obtain ⟨found, hfound, heq⟩ := Option.map_eq_some_iff.1 hlookup
      cases heq
      exact List.mem_map_of_mem (mem_of_lookup hfound)
    | array items => exact (List.of_mem_zip hchild).1
    | _ => exact absurd hchild List.not_mem_nil
  have hfree : content = .free := by
    revert hcontents
    cases content <;> simp [Part.fields]
  rw [hfree]
  rfl

/-- A part that is accepted has only accepted parts within it. -/
theorem Part.Accepts.within {outer inner : Part} {v child : Value} (h : outer.Accepts v)
    (hin : (inner, child) ∈ outer.within v) : inner.Accepts child := by
  by_cases houter : outer = .annotationEntry
  · rw [houter, within_annotationEntry] at hin
    exact absurd hin List.not_mem_nil
  · obtain ⟨α, record, a, hdescribes, hread⟩ := h.exists_record houter
    obtain ⟨⟨content, value⟩, hchild, hplaced⟩ := List.mem_flatMap.1 hin
    exact (hdescribes.children hread hchild).placed hplaced

theorem Stands.accepts {document v : Value} {part : Part} (h : Stands document part v)
    (haccepted : Part.manifest.Accepts document) : part.Accepts v := by
  induction h with
  | root => exact haccepted
  | inner _ hin ih => exact ih.within hin

/-! ### Other keys of an annotation -/

/-- The entries of a table with keys of a part. -/
def Part.named (part : Part) (table : List (String × Value)) : List (String × Value) :=
  table.filter fun entry => entry.1 ∈ part.keys

theorem named_cons_of_mem {part : Part} {name : String} (h : name ∈ part.keys) (v : Value)
    (rest : List (String × Value)) :
    part.named ((name, v) :: rest) = (name, v) :: part.named rest :=
  List.filter_cons_of_pos (by simpa using h)

theorem named_cons_of_not_mem {part : Part} {name : String} (h : name ∉ part.keys) (v : Value)
    (rest : List (String × Value)) : part.named ((name, v) :: rest) = part.named rest :=
  List.filter_cons_of_neg (by simpa using h)

theorem lookup_named {part : Part} {key : String} (hkey : key ∈ part.keys)
    (table : List (String × Value)) : (part.named table).lookup key = table.lookup key := by
  induction table with
  | nil => rfl
  | cons entry rest ih =>
    obtain ⟨name, v⟩ := entry
    by_cases hsame : key = name
    · subst hsame
      rw [named_cons_of_mem hkey, List.lookup_cons_self, List.lookup_cons_self]
    · rw [lookup_cons_of_ne hsame, ← ih]
      by_cases hname : name ∈ part.keys
      · rw [named_cons_of_mem hname, lookup_cons_of_ne hsame]
      · rw [named_cons_of_not_mem hname]

theorem readAnyEntries_named {taken : Schema.AnyValue} {part : Part}
    {table result : List (String × Value)} (h : readAnyEntries taken table = .ok result) :
    readAnyEntries taken (part.named table) = .ok (part.named result) := by
  induction table generalizing result with
  | nil =>
    cases h
    rfl
  | cons entry rest ih =>
    obtain ⟨name, v⟩ := entry
    obtain ⟨first, hfirst, h⟩ := exists_of_bind_eq_ok h
    obtain ⟨others, hothers, h⟩ := exists_of_bind_eq_ok h
    cases h
    by_cases hname : name ∈ part.keys
    · rw [named_cons_of_mem hname, named_cons_of_mem hname, readAnyEntries, hfirst]
      exact congrArg (Except.map ((name, first) :: ·)) (ih hothers)
    · rw [named_cons_of_not_mem hname, named_cons_of_not_mem hname]
      exact ih hothers

/-- A table that may state an annotation is read entry by entry, whatever its first key is. -/
theorem readAny_table (table : List (String × Value)) :
    readAny .plain (.table table) = (readAnyEntries .plain table).map .table := by
  cases table with
  | nil => rfl
  | cons entry rest =>
    obtain ⟨name, v⟩ := entry
    rw [readAny, readAnyEntries, Schema.AnyValue.plain]
    cases readAny ⟨"any value", true, false⟩ v with
    | error e => rfl
    | ok first =>
      cases readAnyEntries ⟨"any value", true, false⟩ rest <;> rfl

theorem annotationEntry?_named (table : List (String × Value)) :
    annotationEntry? (.table (Part.annotationEntry.named table)) =
      annotationEntry? (.table table) := by
  have hname := lookup_named (by decide : "name" ∈ Part.annotationEntry.keys) table
  have harguments := lookup_named (by decide : "arguments" ∈ Part.annotationEntry.keys) table
  simp only [Schema.entries?, annotationEntry?, Option.bind_eq_bind, Option.bind_some, hname,
    harguments]

theorem readAnnotation_eq_ok_iff {v : Value} {entry : AnnotationEntry} :
    readAnnotation v = .ok entry ↔
      ∃ stated, readAny .plain v = .ok stated ∧ annotationEntry? stated = some entry := by
  unfold readAnnotation
  cases readAny .plain v with
  | error e =>
    constructor
    · rintro ⟨⟩
    · rintro ⟨stated, ⟨⟩, -⟩
  | ok stated =>
    cases hentry : annotationEntry? stated <;>
      simp [bind, Except.bind, pure, Except.pure, throw, throwThe, MonadExceptOf.throw, hentry]

/-- Without its other keys a table states the same annotation. -/
theorem readAnnotation_named {table : List (String × Value)} {entry : AnnotationEntry}
    (h : readAnnotation (.table table) = .ok entry) :
    readAnnotation (.table (Part.annotationEntry.named table)) = .ok entry := by
  obtain ⟨stated, hread, hentry⟩ := readAnnotation_eq_ok_iff.1 h
  rw [readAny_table] at hread
  cases hentries : readAnyEntries .plain table with
  | error e =>
    rw [hentries] at hread
    exact nomatch hread
  | ok result =>
    rw [hentries] at hread
    cases hread
    refine readAnnotation_eq_ok_iff.2 ⟨.table (Part.annotationEntry.named result), ?_, ?_⟩
    · rw [readAny_table, readAnyEntries_named hentries]
      rfl
    · rw [annotationEntry?_named, hentry]

/-! ### The keys of an accepted document -/

variable {path : Path} {text : String} {file : ManifestFile}

theorem exists_parse_of_ofText (h : ManifestFile.ofText path text = .ok file) :
    ∃ entries, Toml.parse text = some entries ∧ Part.manifest.Accepts (.table entries) := by
  obtain ⟨manifest, hread, -⟩ := exists_of_bind_eq_ok h
  replace hread := ok_of_mapError_eq_ok hread
  rw [read] at hread
  cases hparse : Toml.parse text with
  | none =>
    rw [hparse] at hread
    exact nomatch hread
  | some entries =>
    rw [hparse] at hread
    exact ⟨entries, rfl, manifest, hread⟩

/-- In an accepted document, a table that stands where the schema expects a part other than an
annotation has only the keys of that part. The table of an annotation may have other keys, and
states the same annotation without them. -/
theorem keys_of_accepted (h : ManifestFile.ofText path text = .ok file) :
    ∃ entries, Toml.parse text = some entries ∧
      (∀ part table, Stands (.table entries) part (.table table) → part ≠ .annotationEntry →
        ∀ key ∈ table.map Prod.fst, key ∈ part.keys) ∧
      ∀ table, Stands (.table entries) .annotationEntry (.table table) →
        ∃ entry, readAnnotation (.table table) = .ok entry ∧
          readAnnotation (.table (Part.annotationEntry.named table)) = .ok entry := by
  obtain ⟨entries, hparse, haccepted⟩ := exists_parse_of_ofText h
  refine ⟨entries, hparse, fun part table hstands hpart key hkey => ?_, fun table hstands => ?_⟩
  · obtain ⟨α, record, a, hdescribes, htable⟩ := (hstands.accepts haccepted).exists_record hpart
    exact hdescribes.mem_keys htable hkey
  · obtain ⟨entry, hentry⟩ := hstands.accepts haccepted
    exact ⟨entry, hentry, readAnnotation_named hentry⟩

/-- Whether a document has a table with a key that stands for a part two levels down. -/
def hasTable (text : String) (part : Part) (key : String) : Bool :=
  (Toml.parse text).any fun entries =>
    ((Part.manifest.within (.table entries)).flatMap fun (outer, v) => outer.within v).any fun
      | (inner, .table table) => inner = part && key ∈ table.map Prod.fst
      | _ => false

theorem exists_stands_of_hasTable {part : Part} {key : String} {entries : List (String × Value)}
    (hparse : Toml.parse text = some entries) (h : hasTable text part key) :
    ∃ table, Stands (.table entries) part (.table table) ∧ key ∈ table.map Prod.fst := by
  rw [hasTable, hparse] at h
  obtain ⟨⟨inner, v⟩, hinner, htable⟩ := List.any_eq_true.1 h
  obtain ⟨⟨outer, w⟩, houter, hwithin⟩ := List.mem_flatMap.1 hinner
  cases v with
  | table table =>
    obtain ⟨hpart, hkey⟩ := Bool.and_eq_true_iff.1 htable
    cases of_decide_eq_true hpart
    exact ⟨table, (Stands.root.inner houter).inner hwithin, of_decide_eq_true hkey⟩
  | _ => exact nomatch htable

/-- A property and an annotation, each in the only declaration. -/
theorem keys_of_accepted_of_property :
    let text := "[[declarations]]\nname = \"First\"\n" ++
      "annotations = [\x7b name = \"Function\" \x7d]\n" ++
      "[[declarations.properties]]\nname = \"x\"\ntype = \"Int\"\n"
    ∃ file entries, ManifestFile.ofText Command.standardConfig text = .ok file ∧
      Toml.parse text = some entries ∧
      (∃ table, Stands (.table entries) .propertyEntry (.table table) ∧
        "type" ∈ table.map Prod.fst ∧
        ∀ key ∈ table.map Prod.fst, key ∈ ["name", "type", "annotations"]) ∧
      ∃ table entry, Stands (.table entries) .annotationEntry (.table table) ∧
        readAnnotation (.table table) = .ok entry ∧
        readAnnotation (.table (Part.annotationEntry.named table)) = .ok entry := by
  intro text
  obtain ⟨file, hfile⟩ : ∃ file, ManifestFile.ofText Command.standardConfig text = .ok file :=
    failure?_eq_none_iff.1 (by decide +kernel)
  obtain ⟨entries, hparse, hkeys, hannotations⟩ := keys_of_accepted hfile
  obtain ⟨property, hproperty, htype⟩ : ∃ table,
      Stands (.table entries) .propertyEntry (.table table) ∧ "type" ∈ table.map Prod.fst :=
    exists_stands_of_hasTable hparse (by decide +kernel)
  obtain ⟨mark, hmark, -⟩ : ∃ table,
      Stands (.table entries) .annotationEntry (.table table) ∧ "name" ∈ table.map Prod.fst :=
    exists_stands_of_hasTable hparse (by decide +kernel)
  obtain ⟨entry, hentry, hnamed⟩ := hannotations mark hmark
  exact ⟨file, entries, hfile, hparse,
    ⟨property, hproperty, htype, hkeys .propertyEntry property hproperty (by decide)⟩,
    mark, entry, hmark, hentry, hnamed⟩

/-- An annotation with a misspelt key is accepted, and has no arguments. -/
theorem misspelt_key_is_ignored :
    let text := "[[declarations]]\nname = \"First\"\n" ++
      "annotations = [\x7b name = \"Function\", argument = \x7b name = \"first\" \x7d \x7d]\n"
    ∃ file entries table, ManifestFile.ofText Command.standardConfig text = .ok file ∧
      Toml.parse text = some entries ∧
      Stands (.table entries) .annotationEntry (.table table) ∧
      "argument" ∈ table.map Prod.fst ∧ "argument" ∉ Part.annotationEntry.keys ∧
      file.manifest.declarations.map DeclarationEntry.annotations = [[.full "Function" []]] := by
  intro text
  obtain ⟨file, hfile⟩ : ∃ file, ManifestFile.ofText Command.standardConfig text = .ok file :=
    failure?_eq_none_iff.1 (by decide +kernel)
  obtain ⟨entries, hparse, -⟩ := exists_parse_of_ofText hfile
  have hannotations : (ManifestFile.ofText Command.standardConfig text).toOption.map
      (fun file => file.manifest.declarations.map DeclarationEntry.annotations) =
        some [[.full "Function" []]] := by
    decide +kernel
  obtain ⟨table, hstands, hkey⟩ : ∃ table,
      Stands (.table entries) .annotationEntry (.table table) ∧ "argument" ∈ table.map Prod.fst :=
    exists_stands_of_hasTable hparse (by decide +kernel)
  rw [hfile] at hannotations
  exact ⟨file, entries, table, hfile, hparse, hstands, hkey, by decide,
    Option.some.inj hannotations⟩

end Manifest

end FunctionForge
