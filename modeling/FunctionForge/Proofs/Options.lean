import FunctionForge.Command.Line
import FunctionForge.Manifest.File
import FunctionForge.Proofs.List

/-!
# Options from a file and from arguments

The table of a file and the arguments are merged before they are read as options. A key keeps the
place where it stood first and takes the value that came last, so a value that was replaced is
neither used nor reported.
-/

namespace FunctionForge

/-- An argument is split at its first equals sign, and has a key in front of it. -/
theorem Command.keyValue_eq_ok_iff {text key value : String} :
    keyValue text = .ok (key, value) ↔
      text = key ++ "=" ++ value ∧ '=' ∉ key.toList ∧ key ≠ "" := by
  constructor
  · intro h
    rw [keyValue] at h
    split at h
    · cases h
    · cases h
    · next letters after hne hsplit =>
      cases h
      obtain ⟨htext, hfirst⟩ := splitAtEquals_eq_some_iff.1 hsplit
      have hletters : letters ≠ [] := by
        rintro rfl
        exact hne rfl
      refine ⟨?_, by rwa [String.toList_ofList], by simpa using hletters⟩
      rw [← String.toList_inj, htext]
      simp
  · rintro ⟨rfl, hfirst, hkey⟩
    have hsplit : splitAtEquals (key ++ "=" ++ value).toList = some (key.toList, value.toList) := by
      refine splitAtEquals_eq_some_iff.2 ⟨?_, hfirst⟩
      simp
    rw [keyValue, hsplit]
    split
    · next hnone => cases hnone
    · next hempty =>
      have hnil : key.toList = [] := congrArg Prod.fst (Option.some.inj hempty)
      exact absurd (String.toList_eq_nil_iff.1 hnil) hkey
    · next hsome =>
      cases hsome
      rw [String.ofList_toList, String.ofList_toList]

namespace OptionArgs

/-- The keys in order. -/
def keys (args : OptionArgs) : List String := args.map Prod.fst

/-- The value that counts for a key: the one that was given last, that of the table if none was
given. -/
inductive Wins (table : OptionArgs) (given : List (String × String)) (key value : String) : Prop
  | given (before after : List (String × String)) (hgiven : given = before ++ (key, value) :: after)
      (hlast : key ∉ after.map Prod.fst)
  | table (hgiven : key ∉ given.map Prod.fst) (htable : (key, value) ∈ table)

variable {table : OptionArgs} {given : List (String × String)} {key value : String}

theorem keys_cons (key value : String) (rest : OptionArgs) :
    keys ((key, value) :: rest) = key :: keys rest := rfl

theorem keys_set (table : OptionArgs) (key value : String) :
    (table.set key value).keys = if key ∈ table.keys then table.keys else table.keys ++ [key] := by
  induction table with
  | nil => rfl
  | cons pair rest ih =>
    obtain ⟨k, v⟩ := pair
    rw [set]
    by_cases hk : k = key
    · rw [if_pos hk, keys_cons, keys_cons, if_pos (List.mem_cons.2 (.inl hk.symm))]
    · have hmem : key ∈ k :: keys rest ↔ key ∈ keys rest :=
        List.mem_cons.trans (or_iff_right (Ne.symm hk))
      rw [if_neg hk, keys_cons, keys_cons, ih, apply_ite (List.cons k)]
      simp only [hmem, List.cons_append]

/-- The keys of a table come first, then those that are given and not in it, each where it came
first. -/
theorem keys_override (table : OptionArgs) (given : List (String × String)) :
    (table.override given).keys =
      table.keys ++ ((given.map Prod.fst).filter (· ∉ table.keys)).eraseDups := by
  induction given generalizing table with
  | nil => exact (List.append_nil _).symm
  | cons pair rest ih =>
    obtain ⟨k, v⟩ := pair
    rw [override, List.foldl_cons, ← override, ih, keys_set, List.map_cons]
    by_cases hk : k ∈ table.keys
    · rw [if_pos hk, List.filter_cons_of_neg (by simpa using hk)]
    · have hlater : (rest.map Prod.fst).filter (· ∉ table.keys ++ [k]) =
          ((rest.map Prod.fst).filter (· ∉ table.keys)).filter (fun key => !key == k) := by
        rw [List.filter_filter]
        refine List.filter_congr fun key _ => ?_
        grind
      rw [if_neg hk, List.filter_cons_of_pos (by simpa using hk), List.eraseDups_cons, hlater,
        List.append_assoc]
      rfl

theorem nodup_keys_set (h : table.keys.Nodup) (key value : String) :
    (table.set key value).keys.Nodup := by
  rw [keys_set]
  split
  · exact h
  · next hkey =>
    refine List.nodup_append.2 ⟨h, List.pairwise_singleton _ key, fun other hother last hlast => ?_⟩
    rintro rfl
    exact hkey (List.mem_singleton.1 hlast ▸ hother)

theorem nodup_keys_override (h : table.keys.Nodup) (given : List (String × String)) :
    (table.override given).keys.Nodup := by
  induction given generalizing table with
  | nil => exact h
  | cons pair rest ih => exact ih (nodup_keys_set h pair.1 pair.2)

theorem lookup_override (table : OptionArgs) (given : List (String × String)) (key : String) :
    (table.override given).lookup key = (given.reverse.lookup key).or (table.lookup key) := by
  induction given generalizing table with
  | nil => rfl
  | cons pair rest ih =>
    obtain ⟨k, v⟩ := pair
    rw [override, List.foldl_cons, ← override, ih, lookup_set, List.reverse_cons,
      List.lookup_append, Option.or_assoc]
    congr 1
    by_cases hk : key = k
    · simp [hk]
    · rw [lookup_cons_of_ne hk, if_neg hk]
      simp

theorem mem_override_iff (h : table.keys.Nodup) (given : List (String × String)) :
    (key, value) ∈ table.override given ↔ Wins table given key value := by
  rw [← lookup_eq_some_iff_of_nodup (nodup_keys_override h given), lookup_override,
    Option.or_eq_some_iff, lookup_reverse_eq_some_iff, lookup_reverse_eq_none_iff,
    lookup_eq_some_iff_of_nodup h]
  constructor
  · rintro (⟨before, after, hgiven, hlast⟩ | ⟨hgiven, htable⟩)
    · exact .given before after hgiven hlast
    · exact .table hgiven htable
  · rintro (⟨before, after, hgiven, hlast⟩ | ⟨hgiven, htable⟩)
    · exact .inl ⟨before, after, hgiven, hlast⟩
    · exact .inr ⟨hgiven, htable⟩

end OptionArgs

namespace Options

/-- The warning about a key with its value, if there is one. -/
def warning? : String × String → Option Diagnostic
  | (key, value) =>
    if key ≠ ignoreGenericArgsKey then some (unknownKeyWarning key)
    else if value = "true" ∨ value = "false" then none
    else some (notFlagWarning key value)

theorem flag?_eq_some_true_iff {value : String} : flag? value = some true ↔ value = "true" := by
  fun_cases flag? value <;> simp_all

theorem flag?_eq_none_iff {value : String} :
    flag? value = none ↔ ¬(value = "true" ∨ value = "false") := by
  fun_cases flag? value <;> simp_all

theorem apply_snd (options : Options) (key value : String) :
    (options.apply key value).2 = (warning? (key, value)).toList := by
  rw [apply, warning?]
  by_cases hkey : key = ignoreGenericArgsKey
  · rw [if_pos hkey, if_neg (not_not_intro hkey)]
    by_cases hvalue : value = "true" ∨ value = "false"
    · rw [if_pos hvalue]
      rcases hvalue with rfl | rfl <;> rfl
    · rw [if_neg hvalue, flag?_eq_none_iff.2 hvalue]
      rfl
  · rw [if_neg hkey, if_pos hkey]
    rfl

theorem apply_fst (options : Options) (key value : String) :
    (options.apply key value).1.ignoreGenericArgs =
      if key = ignoreGenericArgsKey then (flag? value).getD options.ignoreGenericArgs
      else options.ignoreGenericArgs := by
  rw [apply]
  split
  · cases flag? value <;> rfl
  · rfl

/-- Reads pairs on from the options and the warnings so far. -/
def continued (options : Options) (log : DiagnosticLog) (args : OptionArgs) :
    Options × DiagnosticLog :=
  args.foldl (fun (options, log) (key, value) =>
    let (options, warnings) := options.apply key value
    (options, log ++ warnings)) (options, log)

theorem continued_cons (options : Options) (log : DiagnosticLog) (key value : String)
    (rest : OptionArgs) : continued options log ((key, value) :: rest) =
      continued (options.apply key value).1 (log ++ (options.apply key value).2) rest := rfl

theorem continued_snd (options : Options) (log : DiagnosticLog) (args : OptionArgs) :
    (continued options log args).2 = log ++ args.filterMap warning? := by
  induction args generalizing options log with
  | nil => exact (List.append_nil _).symm
  | cons pair rest ih =>
    obtain ⟨key, value⟩ := pair
    rw [continued_cons, ih, apply_snd, List.append_assoc]
    cases hwarning : warning? (key, value) with
    | none => rw [List.filterMap_cons_none hwarning, Option.toList_none, List.nil_append]
    | some warning =>
      rw [List.filterMap_cons_some hwarning, Option.toList_some, List.singleton_append]

theorem continued_fst (options : Options) (log : DiagnosticLog) {args : OptionArgs}
    (h : args.keys.Nodup) : (continued options log args).1.ignoreGenericArgs =
      ((args.lookup ignoreGenericArgsKey).bind flag?).getD options.ignoreGenericArgs := by
  induction args generalizing options log with
  | nil => rfl
  | cons pair rest ih =>
    obtain ⟨key, value⟩ := pair
    obtain ⟨hfirst, hrest⟩ := List.nodup_cons.1 h
    rw [continued_cons, ih _ _ hrest, apply_fst]
    by_cases hkey : key = ignoreGenericArgsKey
    · subst hkey
      rw [if_pos rfl, lookup_eq_none_iff_not_mem.2 hfirst, List.lookup_cons_self]
      rfl
    · rw [if_neg hkey, lookup_cons_of_ne (Ne.symm hkey)]

theorem ofArgs_fst_iff {args : OptionArgs} (h : args.keys.Nodup) :
    (ofArgs args).1.ignoreGenericArgs = true ↔ (ignoreGenericArgsKey, "true") ∈ args := by
  have hread : (ofArgs args).1.ignoreGenericArgs =
      ((args.lookup ignoreGenericArgsKey).bind flag?).getD false := continued_fst default [] h
  rw [hread, ← lookup_eq_some_iff_of_nodup h]
  cases hlookup : args.lookup ignoreGenericArgsKey with
  | none => simp
  | some value =>
    rw [Option.bind_some, Option.some_inj, ← flag?_eq_some_true_iff]
    cases flag? value <;> simp

theorem ofArgs_snd (args : OptionArgs) :
    (ofArgs args).2 = args.filterMap warning? :=
  continued_snd default [] args

end Options

/-- The options of a pass come from the table of its file and from arguments. Each key counts once,
with the value that came last, and keys are warned about in the order in which they came first. -/
theorem ManifestFile.runPass_with_options {file : ManifestFile} {texts : List String}
    {args : List (String × String)} (htable : file.manifest.options.keys.Nodup)
    (hargs : List.Forall₂ (fun text arg => Command.keyValue text = .ok arg) texts args) :
    let table := file.manifest.options
    let settled := file.optionArgs args
    let options := (Options.ofArgs settled).1
    let warnings := (Options.ofArgs settled).2
    List.Forall₂ (fun text (key, value) =>
        text = key ++ "=" ++ value ∧ '=' ∉ key.toList ∧ key ≠ "") texts args ∧
      settled.keys =
        table.keys ++ ((args.map Prod.fst).filter (· ∉ table.keys)).eraseDups ∧
      settled.keys.Nodup ∧
      (∀ key value, (key, value) ∈ settled ↔ table.Wins args key value) ∧
      (options.ignoreGenericArgs = true ↔
        table.Wins args Options.ignoreGenericArgsKey "true") ∧
      warnings = settled.filterMap Options.warning? ∧
      ∀ (m : Type → Type) [Monad m] (sink : Sink m), file.runPass sink args = do
        let (result, log) ← Pass.run sink file.unit options file.manifest.output.location
        return .ofResult result (warnings ++ log) := by
  intro table settled options warnings
  have hkeys : settled.keys.Nodup := OptionArgs.nodup_keys_override htable args
  have hwins (key value : String) : (key, value) ∈ settled ↔ table.Wins args key value :=
    OptionArgs.mem_override_iff htable args
  exact ⟨hargs.imp fun _ _ => Command.keyValue_eq_ok_iff.1, table.keys_override args, hkeys, hwins,
    (Options.ofArgs_fst_iff hkeys).trans (hwins _ _), Options.ofArgs_snd settled,
    fun m _ sink => rfl⟩

/-- A flag that is misspelt in the table and in the first argument is set in the last one. -/
theorem ManifestFile.runPass_with_flag_given_last :
    let manifest : Manifest :=
      { Manifest.empty with options := [("depth", "1"), ("ignoreGenericArgs", "yes")] }
    let file := ManifestFile.mk Command.standardConfig "" manifest ⟨[], .standard ""⟩
    let texts := ["ignoreGenericArgs=on", "level=a=b", "depth=2", "ignoreGenericArgs=true"]
    ∃ args, List.Forall₂ (fun text arg => Command.keyValue text = .ok arg) texts args ∧
      (Options.ofArgs (file.optionArgs args)).1.ignoreGenericArgs = true ∧
      (Options.ofArgs (file.optionArgs args)).2 =
        [Options.unknownKeyWarning "depth", Options.unknownKeyWarning "level"] := by
  intro manifest file texts
  let before := [("ignoreGenericArgs", "on"), ("level", "a=b"), ("depth", "2")]
  let args := before ++ [("ignoreGenericArgs", "true")]
  have hargs : List.Forall₂ (fun text arg => Command.keyValue text = .ok arg) texts args :=
    .cons (by decide) (.cons (by decide) (.cons (by decide) (.cons (by decide) .nil)))
  obtain ⟨-, -, -, -, hflag, hwarnings, -⟩ :=
    runPass_with_options (by decide : file.manifest.options.keys.Nodup) hargs
  refine ⟨args, hargs, hflag.2 (.given before [] rfl List.not_mem_nil), ?_⟩
  rw [hwarnings]
  decide

end FunctionForge
