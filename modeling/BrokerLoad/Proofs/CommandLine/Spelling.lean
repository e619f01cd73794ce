import BrokerLoad.CommandLine.Scan
import Mathlib.Data.List.Nodup
import Mathlib.Data.List.TakeWhile

/-!
# How options are spelled

An option that takes a value can be written with its letter or with its name, and the value either
follows as an argument of its own or is joined to it; an option that takes none is written with its
name alone (`CommandLine.Spells`).  For its name any beginning will do that no other name has
(`CommandLine.Calls`).  What the value looks like does not matter.

A scan finds the options that are spelled, whatever their spellings are
(`CommandLine.scan_of_spells`), as long as the table can tell its options apart
(`CommandLine.IsTable`).
-/

namespace BrokerLoad
namespace CommandLine

variable {κ : Type} {specs : List (OptionSpec κ)} {spec : OptionSpec κ}

/-! ## Tables -/

/-- Options that can be told apart by their names and by their letters. -/
structure IsTable (specs : List (OptionSpec κ)) : Prop where
  names : (specs.map OptionSpec.long).Nodup
  letters : ((specs.filter fun spec => spec.letter ≠ none).map OptionSpec.letter).Nodup
  nonempty : ∀ spec ∈ specs, spec.long ≠ ""
  /-- No name has an equals sign, which would end it. -/
  plain : ∀ spec ∈ specs, '=' ∉ spec.long.toList
  /-- No letter is a dash. -/
  dashless : ∀ spec ∈ specs, spec.letter ≠ some '-'

/-- What an option can be called: its name, or a beginning of it that no other name has. -/
inductive Calls (specs : List (OptionSpec κ)) (spec : OptionSpec κ) : String → Prop
  | full : Calls specs spec spec.long
  | short {name : String} (nonempty : name ≠ "") (begins : name.toList <+: spec.long.toList)
      (clear : ∀ other ∈ specs, name.toList <+: other.long.toList → other.long = spec.long) :
      Calls specs spec name

namespace IsTable

variable (table : IsTable specs)
include table

theorem eq_of_long_eq {one other : OptionSpec κ} (hone : one ∈ specs) (hother : other ∈ specs)
    (same : one.long = other.long) : one = other :=
  List.inj_on_of_nodup_map table.names hone hother same

theorem eq_of_letter_eq {one other : OptionSpec κ} (hone : one ∈ specs) (hother : other ∈ specs)
    {letter : Char} (hletter : one.letter = some letter) (hsame : other.letter = some letter) :
    one = other := by
  refine List.inj_on_of_nodup_map table.letters ?_ ?_ (hletter.trans hsame.symm)
  · exact List.mem_filter.2 ⟨hone, by simp [hletter]⟩
  · exact List.mem_filter.2 ⟨hother, by simp [hsame]⟩

variable (mem : spec ∈ specs)
include mem

/-- An option is found by what it is called. -/
theorem lookupLong_eq {name : String} (calls : Calls specs spec name) :
    lookupLong specs name.toList = some spec := by
  rw [lookupLong]
  cases hfind : specs.find? fun spec => spec.long.toList = name.toList with
  | some found =>
    have hfound := List.mem_of_find?_eq_some hfind
    have hname : found.long = name :=
      String.toList_injective (by simpa using List.find?_some hfind)
    refine congrArg some (table.eq_of_long_eq hfound mem ?_)
    cases calls with
    | full => exact hname
    | short _ _ clear => exact clear found hfound (hname ▸ List.prefix_refl _)
  | none =>
    cases calls with
    | full => exact absurd (List.find?_eq_none.1 hfind spec mem) (by simp)
    | short _ begins clear =>
      -- Only the option itself has a name that begins so.
      have honly : (specs.filter fun spec => name.toList.isPrefixOf spec.long.toList) = [spec] := by
        refine List.perm_singleton.1 ?_
        have hnodup := table.names.of_map
        refine (List.perm_ext_iff_of_nodup (hnodup.filter _) (List.nodup_singleton _)).2 ?_
        intro other
        rw [List.mem_filter, List.isPrefixOf_iff_prefix, List.mem_singleton]
        constructor
        · rintro ⟨hother, hbegins⟩
          exact table.eq_of_long_eq hother mem (clear other hother hbegins)
        · rintro rfl
          exact ⟨mem, begins⟩
      dsimp only
      rw [honly]

/-- An option is found by its letter. -/
theorem lookupLetter_eq {letter : Char} (hletter : spec.letter = some letter) :
    lookupLetter specs letter = some spec := by
  rw [lookupLetter]
  cases hfind : specs.find? fun spec => spec.letter = some letter with
  | some found =>
    have hfound : found.letter = some letter := by simpa using List.find?_some hfind
    exact congrArg some
      (table.eq_of_letter_eq (List.mem_of_find?_eq_some hfind) mem hfound hletter)
  | none => exact absurd (List.find?_eq_none.1 hfind spec mem) (by simp [hletter])

/-- What an option is called is not empty, and has no equals sign. -/
theorem calls_plain {name : String} (calls : Calls specs spec name) :
    name ≠ "" ∧ '=' ∉ name.toList := by
  cases calls with
  | full => exact ⟨table.nonempty spec mem, table.plain spec mem⟩
  | short nonempty begins _ =>
    exact ⟨nonempty, fun hequals => table.plain spec mem (begins.subset hequals)⟩

end IsTable

/-! ## Looks -/

/-- What is before an equals sign, and what is from there on. -/
theorem takeWhile_equals {name : List Char} (plain : '=' ∉ name) (rest : List Char)
    (stops : ∀ c ∈ rest.head?, c = '=') :
    (name ++ rest).takeWhile (· ≠ '=') = name ∧ (name ++ rest).dropWhile (· ≠ '=') = rest := by
  have hname : ∀ c ∈ name, decide (c ≠ '=') = true := fun c hc =>
    decide_eq_true fun heq => plain (heq ▸ hc)
  rw [List.takeWhile_append_of_pos hname, List.dropWhile_append_of_pos hname]
  cases rest with
  | nil => simp
  | cons c rest => simp [stops c rfl]

/-- What is behind two dashes is a name, and a value if there is an equals sign. -/
theorem shape_of_dashes {argument : String} {body : List Char} (nonempty : body ≠ [])
    (eq : argument.toList = '-' :: '-' :: body) : shape argument =
      match body.dropWhile (· ≠ '=') with
      | _ :: value => .long (body.takeWhile (· ≠ '=')) (some value)
      | [] => .long body none := by
  obtain ⟨c, rest, rfl⟩ := List.exists_cons_of_ne_nil nonempty
  rw [shape, eq]
  rfl

/-- A name after two dashes. -/
theorem shape_name {name : String} (nonempty : name ≠ "") (plain : '=' ∉ name.toList) :
    shape ("--" ++ name) = .long name.toList none := by
  obtain ⟨-, hdrop⟩ := takeWhile_equals plain [] nofun
  rw [List.append_nil] at hdrop
  have hlist : ("--" ++ name).toList = '-' :: '-' :: name.toList := String.toList_append
  rw [shape_of_dashes (by simpa using nonempty) hlist, hdrop]

/-- A name after two dashes, and a value after an equals sign. -/
theorem shape_name_value {name : String} (plain : '=' ∉ name.toList) (value : String) :
    shape ("--" ++ name ++ "=" ++ value) = .long name.toList (some value.toList) := by
  obtain ⟨htake, hdrop⟩ := takeWhile_equals plain ('=' :: value.toList) (by simp)
  have hlist : ("--" ++ name ++ "=" ++ value).toList =
      '-' :: '-' :: (name.toList ++ '=' :: value.toList) := by
    simp [String.toList_append]
  rw [shape_of_dashes (by simp) hlist, hdrop, htake]

/-- A letter after one dash, and what follows it. -/
theorem shape_letter {letter : Char} (dashless : letter ≠ '-') (rest : String) :
    shape ("-" ++ letter.toString ++ rest) = .cluster (letter :: rest.toList) := by
  have hlist : ("-" ++ letter.toString ++ rest).toList = '-' :: letter :: rest.toList := by
    simp [String.toList_append, Char.toString]
  rw [shape, hlist]
  split
  next h => exact absurd (List.cons.inj (List.cons.inj h).2).1 dashless
  next h => exact absurd (List.cons.inj (List.cons.inj h).2).1 dashless
  next h =>
    cases h
    rfl
  next h => exact absurd rfl (h letter rest.toList)

/-! ## Spellings -/

/-- How an option is spelled, as one argument or two. -/
inductive Spells (specs : List (OptionSpec κ)) : Occurrence κ → List String → Prop
  | letterApart {spec : OptionSpec κ} {letter : Char} (value : String) (mem : spec ∈ specs)
      (hletter : spec.letter = some letter) (takes : spec.takesValue = true) :
      Spells specs { key := spec.key, value } ["-" ++ letter.toString, value]
  | letterJoined {spec : OptionSpec κ} {letter : Char} {value : String} (mem : spec ∈ specs)
      (hletter : spec.letter = some letter) (takes : spec.takesValue = true)
      (nonempty : value ≠ "") :
      Spells specs { key := spec.key, value } ["-" ++ letter.toString ++ value]
  | nameApart {spec : OptionSpec κ} {name : String} (value : String) (mem : spec ∈ specs)
      (calls : Calls specs spec name) (takes : spec.takesValue = true) :
      Spells specs { key := spec.key, value } ["--" ++ name, value]
  | nameJoined {spec : OptionSpec κ} {name : String} (value : String) (mem : spec ∈ specs)
      (calls : Calls specs spec name) (takes : spec.takesValue = true) :
      Spells specs { key := spec.key, value } ["--" ++ name ++ "=" ++ value]
  | alone {spec : OptionSpec κ} {name : String} (mem : spec ∈ specs)
      (calls : Calls specs spec name) (takes : spec.takesValue = false) :
      Spells specs { key := spec.key } ["--" ++ name]

/-- A scan finds an option by any of its spellings, passes it, and goes on behind it. -/
theorem scanArguments_of_spells (table : IsTable specs) {occurrence : Occurrence κ}
    {arguments : List String} (spells : Spells specs occurrence arguments)
    (operands : List String) (passed : String) (rest : List String) :
    scanArguments specs operands passed none (arguments ++ rest) =
      (scanArguments specs operands (arguments.getLast?.getD passed) none rest).after
        [occurrence] := by
  cases spells with
  | @letterApart spec letter value mem hletter takes =>
    have hlooks : shape ("-" ++ letter.toString) = .cluster [letter] := by
      have hshape := shape_letter (fun h => table.dashless spec mem (h ▸ hletter)) ""
      rwa [String.append_empty] at hshape
    have hcluster : scanCluster specs [letter] = ([], .wantsValue spec.key) := by
      rw [scanCluster, table.lookupLetter_eq mem hletter]
      simp [takes]
    rw [List.cons_append, scanArguments]
    simp only [hlooks, hcluster]
    rw [List.cons_append, scanArguments]
    rfl
  | @letterJoined spec letter value mem hletter takes nonempty =>
    have hlooks := shape_letter (fun h => table.dashless spec mem (h ▸ hletter)) value
    have hcluster : scanCluster specs (letter :: value.toList) =
        ([{ key := spec.key, value }], .complete) := by
      rw [scanCluster, table.lookupLetter_eq mem hletter]
      simp [takes, nonempty]
    rw [List.cons_append, scanArguments]
    simp only [hlooks, hcluster]
    rfl
  | @nameApart spec name value mem calls takes =>
    obtain ⟨hnonempty, hplain⟩ := table.calls_plain mem calls
    rw [List.cons_append, scanArguments]
    simp only [shape_name hnonempty hplain, table.lookupLong_eq mem calls, takes]
    rw [List.cons_append, scanArguments]
    rfl
  | @nameJoined spec name value mem calls takes =>
    obtain ⟨-, hplain⟩ := table.calls_plain mem calls
    rw [List.cons_append, scanArguments]
    simp only [shape_name_value hplain, table.lookupLong_eq mem calls, takes, String.ofList_toList]
    rfl
  | @alone spec name mem calls takes =>
    obtain ⟨hnonempty, hplain⟩ := table.calls_plain mem calls
    rw [List.cons_append, scanArguments]
    simp only [shape_name hnonempty hplain, table.lookupLong_eq mem calls, takes]
    rfl

/-- A scan finds all the options that are spelled, and nothing else. -/
theorem scan_of_spells (table : IsTable specs) {occurrences : List (Occurrence κ)}
    {spelled : List (List String)} (spells : List.Forall₂ (Spells specs) occurrences spelled)
    (program : String) : scan specs (program :: spelled.flatten) = ⟨occurrences, .operands []⟩ := by
  rw [scan]
  -- The argument that was passed last may be any.
  induction spells generalizing program with
  | nil => rfl
  | @cons occurrence arguments occurrences spelled hspells _ ih =>
    rw [List.flatten_cons, scanArguments_of_spells table hspells, ih]
    rfl

end CommandLine
end BrokerLoad
