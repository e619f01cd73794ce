import BrokerLoad.Proofs.CommandLine.Spelling

/-!
# How far a command line can be read

Arguments are read piece by piece (`CommandLine.Piece`): an operand, an option in one of its
spellings, or a cluster of letters.  Every command line can be read up to a *stop*
(`CommandLine.exists_stop`): its end, the two dashes that end the options, an argument that offends,
or an option at the end that lacks its value (`CommandLine.Stop`).

A scan finds the options of what is read and stops there (`CommandLine.Reads.scanArguments_eq`).
What it names when it cannot go on is the argument at the stop, but for one case: of a cluster that
it has not passed yet, because there is more of it behind an unknown letter, it names what was
passed before (`CommandLine.Reads.scan_of_offends`).
-/

namespace BrokerLoad
namespace CommandLine

variable {κ : Type} {specs : List (OptionSpec κ)} {spec : OptionSpec κ}

/-! ## Pieces -/

/-- An argument that is no option: it does not begin with a dash, or it is one. -/
def IsOperand (argument : String) : Prop := argument = "-" ∨ argument.toList.head? ≠ some '-'

/-- A letter of an option that takes no value. -/
def IsFlag (specs : List (OptionSpec κ)) (letter : Char) (occurrence : Occurrence κ) : Prop :=
  ∃ spec ∈ specs, spec.letter = some letter ∧ spec.takesValue = false ∧
    occurrence = { key := spec.key }

/-- A dash and letters after it. -/
def cluster (letters : List Char) : String := String.ofList ('-' :: letters)

/-- An argument whose option takes the next argument for its value, with the flags in front of it
and what it stands for. -/
inductive Wants (specs : List (OptionSpec κ)) : String → List (Occurrence κ) → κ → Prop
  | name {spec : OptionSpec κ} {name : String} (mem : spec ∈ specs)
      (calls : Calls specs spec name) (takes : spec.takesValue = true) :
      Wants specs ("--" ++ name) [] spec.key
  | letter {letters : List Char} {found : List (Occurrence κ)} {spec : OptionSpec κ} {letter : Char}
      (flags : List.Forall₂ (IsFlag specs) letters found) (mem : spec ∈ specs)
      (hletter : spec.letter = some letter) (takes : spec.takesValue = true) :
      Wants specs (cluster (letters ++ [letter])) found spec.key

/-- Arguments that are read together, with the options and the operands in them. -/
inductive Piece (specs : List (OptionSpec κ)) :
    List String → List (Occurrence κ) → List String → Prop
  | operand {argument : String} (looks : IsOperand argument) : Piece specs [argument] [] [argument]
  | option {occurrence : Occurrence κ} {arguments : List String}
      (spells : Spells specs occurrence arguments) : Piece specs arguments [occurrence] []
  | flags {letters : List Char} {found : List (Occurrence κ)} (nonempty : letters ≠ [])
      (flags : List.Forall₂ (IsFlag specs) letters found) : Piece specs [cluster letters] found []
  /-- Behind flags there is an option whose value is the rest of the cluster. -/
  | joined {letters : List Char} {found : List (Occurrence κ)} {spec : OptionSpec κ}
      {letter : Char} {value : List Char} (flags : List.Forall₂ (IsFlag specs) letters found)
      (mem : spec ∈ specs) (hletter : spec.letter = some letter) (takes : spec.takesValue = true)
      (nonempty : value ≠ []) :
      Piece specs [cluster (letters ++ letter :: value)]
        (found ++ [{ key := spec.key, value := String.ofList value }]) []
  | apart {argument : String} {found : List (Occurrence κ)} {key : κ} (value : String)
      (wants : Wants specs argument found key) :
      Piece specs [argument, value] (found ++ [⟨key, value⟩]) []

/-- Arguments that are read piece by piece. -/
inductive Reads (specs : List (OptionSpec κ)) :
    List String → List (Occurrence κ) → List String → Prop
  | nil : Reads specs [] [] []
  | cons {arguments arguments' operands operands' : List String}
      {found found' : List (Occurrence κ)} (piece : Piece specs arguments found operands)
      (rest : Reads specs arguments' found' operands') :
      Reads specs (arguments ++ arguments') (found ++ found') (operands ++ operands')

/-! ## Stops -/

/-- An argument that holds an option that is not known, or one that takes no value and has one; what
was found in its cluster before; and whether there is more of the cluster after the first byte of
the unknown letter. -/
inductive Offends (specs : List (OptionSpec κ)) : String → List (Occurrence κ) → Bool → Prop
  | name {name : String} (nonempty : name ≠ "") (plain : '=' ∉ name.toList)
      (unknown : ∀ spec ∈ specs, ¬ Calls specs spec name) : Offends specs ("--" ++ name) [] false
  | nameValue {name : String} (value : String) (plain : '=' ∉ name.toList)
      (unknown : ∀ spec ∈ specs, ¬ Calls specs spec name) :
      Offends specs ("--" ++ name ++ "=" ++ value) [] false
  | flagValue {spec : OptionSpec κ} {name : String} (value : String) (mem : spec ∈ specs)
      (calls : Calls specs spec name) (takes : spec.takesValue = false) :
      Offends specs ("--" ++ name ++ "=" ++ value) [] false
  | letter {letters : List Char} {found : List (Occurrence κ)} {letter : Char} (rest : List Char)
      (flags : List.Forall₂ (IsFlag specs) letters found)
      (unknown : ∀ spec ∈ specs, spec.letter ≠ some letter)
      (dashless : letters = [] → letter ≠ '-') :
      Offends specs (cluster (letters ++ letter :: rest)) found (rest ≠ [] || letter.utf8Size ≠ 1)

/-- Arguments that are not read any further. -/
inductive Stop (specs : List (OptionSpec κ)) : List String → Prop
  | finished : Stop specs []
  | terminator (behind : List String) : Stop specs ("--" :: behind)
  | offends {argument : String} {found : List (Occurrence κ)} {unfinished : Bool}
      (behind : List String) (offends : Offends specs argument found unfinished) :
      Stop specs (argument :: behind)
  | wants {argument : String} {found : List (Occurrence κ)} {key : κ}
      (wants : Wants specs argument found key) : Stop specs [argument]

/-! ## Every command line is read up to a stop -/

/-- What an argument can be by its looks. -/
theorem looks_cases (argument : String) :
    IsOperand argument ∨ argument = "--" ∨
      (∃ name, name ≠ "" ∧ '=' ∉ name.toList ∧ argument = "--" ++ name) ∨
      (∃ name value, '=' ∉ name.toList ∧ argument = "--" ++ name ++ "=" ++ value) ∨
      ∃ letter rest, letter ≠ '-' ∧ argument = cluster (letter :: rest) := by
  have hargument := argument.ofList_toList.symm
  rcases hlist : argument.toList with _ | ⟨first, rest⟩
  · exact .inl (.inr (by simp [hlist]))
  rw [hlist] at hargument
  by_cases hdash : first = '-'
  · subst hdash
    rcases rest with _ | ⟨letter, body⟩
    · exact .inl (.inl hargument)
    by_cases hlong : letter = '-'
    · subst hlong
      by_cases hvalue : '=' ∈ body
      · obtain ⟨name, value, rfl, hplain⟩ := List.eq_append_cons_of_mem hvalue
        refine .inr (.inr (.inr (.inl ⟨String.ofList name, String.ofList value, ?_, ?_⟩)))
        · simpa using hplain
        · exact String.toList_injective (by simp [hlist])
      · by_cases hnone : body = []
        · subst hnone
          exact .inr (.inl hargument)
        · refine .inr (.inr (.inl ⟨String.ofList body, ?_, ?_, ?_⟩))
          · exact fun h => hnone (by simpa using congrArg String.toList h)
          · simpa using hvalue
          · exact String.toList_injective (by simp [hlist])
    · exact .inr (.inr (.inr (.inr ⟨letter, body, hlong, hargument⟩)))
  · exact .inl (.inr (by simp [hlist, hdash]))

/-- What letters can be: flags, and then nothing, an option that takes a value, or an unknown
letter. -/
theorem letters_cases (specs : List (OptionSpec κ)) (letters : List Char) :
    ∃ flags found, List.Forall₂ (IsFlag specs) flags found ∧
      (letters = flags ∨ ∃ letter rest, letters = flags ++ letter :: rest ∧
        ((∃ spec ∈ specs, spec.letter = some letter ∧ spec.takesValue = true) ∨
          ∀ spec ∈ specs, spec.letter ≠ some letter)) := by
  induction letters with
  | nil => exact ⟨[], [], .nil, .inl rfl⟩
  | cons letter rest ih =>
    by_cases hknown : ∃ spec ∈ specs, spec.letter = some letter
    · obtain ⟨spec, hmem, hletter⟩ := hknown
      cases htakes : spec.takesValue with
      | true =>
        exact ⟨[], [], .nil, .inr ⟨letter, rest, rfl, .inl ⟨spec, hmem, hletter, htakes⟩⟩⟩
      | false =>
        obtain ⟨flags, found, hflags, hrest⟩ := ih
        refine ⟨letter :: flags, _, .cons ⟨spec, hmem, hletter, htakes, rfl⟩ hflags, ?_⟩
        rcases hrest with rfl | ⟨next, behind, rfl, hnext⟩
        · exact .inl rfl
        · exact .inr ⟨next, behind, rfl, hnext⟩
    · refine ⟨[], [], .nil, .inr ⟨letter, rest, rfl, .inr fun spec hmem hletter => ?_⟩⟩
      exact hknown ⟨spec, hmem, hletter⟩

/-- Whether arguments begin with a piece that is read. -/
def BeginsWithPiece (specs : List (OptionSpec κ)) (arguments : List String) : Prop :=
  ∃ piece behind found operands, arguments = piece ++ behind ∧ piece ≠ [] ∧
    Piece specs piece found operands

/-- The next argument is the value, if there is one. -/
theorem Wants.piece_or_stop {argument : String} {found : List (Occurrence κ)} {key : κ}
    (wants : Wants specs argument found key) (rest : List String) :
    BeginsWithPiece specs (argument :: rest) ∨ Stop specs (argument :: rest) := by
  cases rest with
  | nil => exact .inr (.wants wants)
  | cons value behind =>
    exact .inl ⟨[argument, value], behind, _, _, rfl, List.cons_ne_nil _ _, .apart value wants⟩

theorem piece_or_stop (specs : List (OptionSpec κ)) (argument : String) (rest : List String) :
    BeginsWithPiece specs (argument :: rest) ∨ Stop specs (argument :: rest) := by
  have hpiece {found operands} (piece : Piece specs [argument] found operands) :
      BeginsWithPiece specs (argument :: rest) :=
    ⟨[argument], rest, found, operands, rfl, List.cons_ne_nil _ _, piece⟩
  rcases looks_cases argument with hoperand | rfl | ⟨name, hnonempty, hplain, rfl⟩ |
    ⟨name, value, hplain, rfl⟩ | ⟨first, others, hdash, rfl⟩
  · exact .inl (hpiece (.operand hoperand))
  · exact .inr (.terminator rest)
  · by_cases hknown : ∃ spec ∈ specs, Calls specs spec name
    · obtain ⟨spec, hmem, hcalls⟩ := hknown
      cases htakes : spec.takesValue with
      | true => exact (Wants.name hmem hcalls htakes).piece_or_stop rest
      | false => exact .inl (hpiece (.option (.alone hmem hcalls htakes)))
    · push Not at hknown
      exact .inr (.offends rest (.name hnonempty hplain hknown))
  · by_cases hknown : ∃ spec ∈ specs, Calls specs spec name
    · obtain ⟨spec, hmem, hcalls⟩ := hknown
      cases htakes : spec.takesValue with
      | true => exact .inl (hpiece (.option (.nameJoined value hmem hcalls htakes)))
      | false => exact .inr (.offends rest (.flagValue value hmem hcalls htakes))
    · push Not at hknown
      exact .inr (.offends rest (.nameValue value hplain hknown))
  · obtain ⟨flags, found, hflags, hall | ⟨letter, behind, hletters, hnext⟩⟩ :=
      letters_cases specs (first :: others)
    · rw [hall] at hpiece ⊢
      exact .inl (hpiece (.flags (hall ▸ List.cons_ne_nil _ _) hflags))
    · rw [hletters] at hpiece ⊢
      rcases hnext with ⟨spec, hmem, hletter, htakes⟩ | hunknown
      · by_cases hvalue : behind = []
        · subst hvalue
          exact (Wants.letter hflags hmem hletter htakes).piece_or_stop rest
        · exact .inl (hpiece (.joined hflags hmem hletter htakes hvalue))
      · refine .inr (.offends rest (.letter behind hflags hunknown ?_))
        rintro rfl
        rwa [← (List.cons.inj hletters).1]

/-- A command line can be read up to a stop. -/
theorem exists_stop (specs : List (OptionSpec κ)) (arguments : List String) :
    ∃ before behind found operands, arguments = before ++ behind ∧
      Reads specs before found operands ∧ Stop specs behind := by
  induction hlength : arguments.length using Nat.strong_induction_on generalizing arguments with
  | _ length ih =>
    cases arguments with
    | nil => exact ⟨[], [], [], [], rfl, .nil, .finished⟩
    | cons argument rest =>
      rcases piece_or_stop specs argument rest with ⟨piece, behind, _, _, hsplit, hsome, hpiece⟩ |
        hstop
      · have hshorter : behind.length < length := by
          rw [← hlength, hsplit, List.length_append]
          exact Nat.lt_add_of_pos_left (List.length_pos_iff.2 hsome)
        obtain ⟨before, stop, _, _, rfl, hreads, hstop⟩ := ih _ hshorter behind rfl
        exact ⟨piece ++ before, stop, _, _, by rw [hsplit, List.append_assoc], .cons hpiece hreads,
          hstop⟩
      · exact ⟨[], _, [], [], rfl, .nil, hstop⟩

/-! ## Scanning pieces -/

theorem shape_operand {argument : String} (looks : IsOperand argument) :
    shape argument = .operand := by
  rcases looks with rfl | hhead
  · decide
  · rw [shape]
    split
    · simp_all
    · simp_all
    · simp_all
    · rfl

theorem shape_cluster {letter : Char} (dashless : letter ≠ '-') (rest : List Char) :
    shape (cluster (letter :: rest)) = .cluster (letter :: rest) := by
  have hlist : cluster (letter :: rest) = "-" ++ letter.toString ++ String.ofList rest :=
    String.toList_injective (by simp [cluster, Char.toString])
  rw [hlist, shape_letter dashless, String.toList_ofList]

@[simp] theorem Scan.after_nil (scan : Scan κ) : scan.after [] = scan := rfl

theorem Scan.after_append (found more : List (Occurrence κ)) (scan : Scan κ) :
    scan.after (found ++ more) = (scan.after more).after found :=
  congrArg (Scan.mk · scan.ending) (List.append_assoc found more scan.found)

theorem lookupLetter_eq_none {letter : Char} (unknown : ∀ spec ∈ specs, spec.letter ≠ some letter) :
    lookupLetter specs letter = none :=
  List.find?_eq_none.2 fun spec hmem => by simpa using unknown spec hmem

/-- A name that no option is called by is not found.  Nothing at all is the beginning of every name,
and so of one name only if there is no other. -/
theorem lookupLong_eq_none (several : specs.length ≠ 1) {name : String}
    (unknown : ∀ spec ∈ specs, ¬ Calls specs spec name) : lookupLong specs name.toList = none := by
  rw [lookupLong]
  have hfind : (specs.find? fun spec => spec.long.toList = name.toList) = none := by
    refine List.find?_eq_none.2 fun spec hmem hname => ?_
    obtain rfl : spec.long = name := String.toList_injective (by simpa using hname)
    exact unknown spec hmem .full
  rw [hfind]
  dsimp only
  split
  next spec honly =>
    have hiff : ∀ other, other ∈ specs ∧ name.toList <+: other.long.toList ↔ other = spec := by
      intro other
      have hmem : other ∈ (specs.filter fun spec => name.toList.isPrefixOf spec.long.toList) ↔ _ :=
        List.mem_filter
      rwa [honly, List.mem_singleton, List.isPrefixOf_iff_prefix, iff_comm] at hmem
    obtain ⟨hmem, hbegins⟩ := (hiff spec).2 rfl
    by_cases hempty : name = ""
    · subst hempty
      have hall : (specs.filter fun spec => "".toList.isPrefixOf spec.long.toList) = specs :=
        List.filter_eq_self.2 fun _ _ => rfl
      exact absurd (congrArg List.length (hall.symm.trans honly)) several
    · refine absurd (.short hempty hbegins fun other hother hprefix => ?_) (unknown spec hmem)
      rw [(hiff other).1 ⟨hother, hprefix⟩]
  next => rfl

section Clusters

variable (table : IsTable specs) {letters : List Char} {found : List (Occurrence κ)}
  (flags : List.Forall₂ (IsFlag specs) letters found)
include table flags

/-- Flags are found, and the scan goes on behind them. -/
theorem scanCluster_flags (rest : List Char) : scanCluster specs (letters ++ rest) =
    (found ++ (scanCluster specs rest).1, (scanCluster specs rest).2) := by
  induction flags with
  | nil => rfl
  | cons isFlag _ ih =>
    obtain ⟨spec, hmem, hletter, htakes, rfl⟩ := isFlag
    rw [List.cons_append, scanCluster, table.lookupLetter_eq hmem hletter]
    simp only [htakes, ih]
    rfl

/-- Flags in front keep a cluster from being taken for a name. -/
theorem shape_flags {rest : List Char} (nonempty : letters ++ rest ≠ [])
    (dashless : letters = [] → rest.head? ≠ some '-') :
    shape (cluster (letters ++ rest)) = .cluster (letters ++ rest) := by
  cases flags with
  | nil =>
    obtain ⟨letter, others, rfl⟩ := List.exists_cons_of_ne_nil nonempty
    exact shape_cluster (by simpa using dashless rfl) others
  | cons isFlag _ =>
    obtain ⟨spec, hmem, hletter, -⟩ := isFlag
    exact shape_cluster (fun hdash => table.dashless spec hmem (hdash ▸ hletter)) _

/-- Flags alone are a whole cluster. -/
theorem scanCluster_flags_alone : scanCluster specs letters = (found, .complete) := by
  have hflags := scanCluster_flags table flags []
  rwa [List.append_nil, scanCluster, List.append_nil] at hflags

/-- Behind flags comes the letter of an option. -/
theorem shape_flags_letter {spec : OptionSpec κ} {letter : Char} (mem : spec ∈ specs)
    (hletter : spec.letter = some letter) (value : List Char) :
    shape (cluster (letters ++ letter :: value)) = .cluster (letters ++ letter :: value) := by
  refine shape_flags table flags (List.append_ne_nil_of_right_ne_nil _ (List.cons_ne_nil _ _)) ?_
  rw [List.head?_cons, ← hletter]
  exact fun _ => table.dashless spec mem

end Clusters

section Scanning

variable (table : IsTable specs)
include table

/-- A scan that has come to an option without its value goes on with the next argument. -/
theorem Wants.scanArguments_eq {argument : String} {found : List (Occurrence κ)} {key : κ}
    (wants : Wants specs argument found key) (operands : List String) (passed : String)
    (rest : List String) : scanArguments specs operands passed none (argument :: rest) =
      (scanArguments specs operands argument (some key) rest).after found := by
  rw [scanArguments]
  cases wants with
  | @name spec name mem calls takes =>
    obtain ⟨hnonempty, hplain⟩ := table.calls_plain mem calls
    simp only [shape_name hnonempty hplain, table.lookupLong_eq mem calls, takes, Scan.after_nil]
  | @letter _ _ spec letter flags mem hletter takes =>
    have hcluster : scanCluster specs [letter] = ([], .wantsValue spec.key) := by
      rw [scanCluster, table.lookupLetter_eq mem hletter]
      simp [takes]
    simp only [shape_flags_letter table flags mem hletter, scanCluster_flags table flags, hcluster,
      List.append_nil]

/-- A scan finds the options of a piece, and keeps its operands. -/
theorem Piece.scanArguments_eq {arguments operands : List String} {found : List (Occurrence κ)}
    (piece : Piece specs arguments found operands) (skipped : List String) (passed : String)
    (rest : List String) : ∃ last, (operands = [] → last = arguments.getLast?.getD passed) ∧
      scanArguments specs skipped passed none (arguments ++ rest) =
        (scanArguments specs (skipped ++ operands) last none rest).after found := by
  cases piece with
  | @operand argument looks =>
    refine ⟨passed, nofun, ?_⟩
    rw [List.cons_append, scanArguments]
    simp only [shape_operand looks]
    rfl
  | option spells =>
    refine ⟨_, fun _ => rfl, ?_⟩
    rw [List.append_nil]
    exact scanArguments_of_spells table spells skipped passed rest
  | @flags letters found nonempty flags =>
    refine ⟨_, fun _ => rfl, ?_⟩
    have hlooks : shape (cluster letters) = .cluster letters := by
      have hshape := shape_flags table flags (by rwa [List.append_nil]) fun hnone =>
        absurd hnone nonempty
      rwa [List.append_nil] at hshape
    rw [List.cons_append, scanArguments, List.append_nil]
    simp only [hlooks, scanCluster_flags_alone table flags]
    rfl
  | @joined letters found spec letter value flags mem hletter takes nonempty =>
    refine ⟨_, fun _ => rfl, ?_⟩
    have hcluster : scanCluster specs (letter :: value) =
        ([{ key := spec.key, value := String.ofList value }], .complete) := by
      rw [scanCluster, table.lookupLetter_eq mem hletter]
      simp [takes, nonempty]
    rw [List.cons_append, scanArguments, List.append_nil]
    simp only [shape_flags_letter table flags mem hletter, scanCluster_flags table flags, hcluster]
    rfl
  | @apart argument found key value wants =>
    refine ⟨_, fun _ => rfl, ?_⟩
    rw [List.cons_append, wants.scanArguments_eq table, List.cons_append, scanArguments,
      Scan.after_append, List.append_nil]
    rfl

/-- A scan finds the options of what is read, and keeps the operands. -/
theorem Reads.scanArguments_eq {arguments operands : List String} {found : List (Occurrence κ)}
    (reads : Reads specs arguments found operands) (skipped : List String) (passed : String)
    (rest : List String) :
    ∃ last, (skipped ++ operands = [] → last = arguments.getLast?.getD passed) ∧
      scanArguments specs skipped passed none (arguments ++ rest) =
        (scanArguments specs (skipped ++ operands) last none rest).after found := by
  induction reads generalizing skipped passed with
  | nil => exact ⟨passed, fun _ => rfl, by rw [List.append_nil]; rfl⟩
  | @cons arguments arguments' operands operands' found found' piece _ ih =>
    obtain ⟨between, hbetween, hpiece⟩ := piece.scanArguments_eq table skipped passed
      (arguments' ++ rest)
    obtain ⟨last, hlast, hrest⟩ := ih (skipped ++ operands) between
    refine ⟨last, fun hnone => ?_, ?_⟩
    · rw [← List.append_assoc] at hnone
      rw [hlast hnone, hbetween (List.append_eq_nil_iff.1 (List.append_eq_nil_iff.1 hnone).1).2,
        List.getLast?_append]
      cases arguments'.getLast? <;> rfl
    · rw [List.append_assoc, hpiece, hrest, Scan.after_append, List.append_assoc]

/-- A scan stops at an argument that offends. -/
theorem Offends.scanArguments_eq (several : specs.length ≠ 1) {argument : String}
    {found : List (Occurrence κ)} {unfinished : Bool}
    (offends : Offends specs argument found unfinished) (operands : List String) (passed : String)
    (rest : List String) : scanArguments specs operands passed none (argument :: rest) =
      ⟨found, .unknownOption (if unfinished then operands.getLast?.getD passed else argument)⟩ := by
  rw [scanArguments]
  cases offends with
  | name nonempty plain unknown =>
    simp only [shape_name nonempty plain, lookupLong_eq_none several unknown]
    rfl
  | nameValue value plain unknown =>
    simp only [shape_name_value plain, lookupLong_eq_none several unknown]
    rfl
  | flagValue value mem calls takes =>
    obtain ⟨-, hplain⟩ := table.calls_plain mem calls
    simp only [shape_name_value hplain, table.lookupLong_eq mem calls, takes]
    rfl
  | @letter _ _ letter behind flags unknown dashless =>
    have hcluster : scanCluster specs (letter :: behind) =
        ([], .unknown (behind ≠ [] || letter.utf8Size ≠ 1)) := by
      rw [scanCluster, lookupLetter_eq_none unknown]
    have hlooks := shape_flags table flags
      (List.append_ne_nil_of_right_ne_nil _ (List.cons_ne_nil letter behind))
      (fun hnone => by simpa using dashless hnone)
    simp only [hlooks, scanCluster_flags table flags, hcluster, List.append_nil]

namespace Reads

variable {before operands : List String} {found : List (Occurrence κ)}
  (reads : Reads specs before found operands)
include reads

theorem scan_of_finished (program : String) :
    scan specs (program :: before) = ⟨found, .operands operands⟩ := by
  obtain ⟨last, -, hscan⟩ := reads.scanArguments_eq table [] program []
  rw [List.append_nil] at hscan
  rw [scan, hscan, List.nil_append, scanArguments]
  exact congrArg (Scan.mk · _) (List.append_nil found)

theorem scan_of_terminator (program : String) (behind : List String) :
    scan specs (program :: (before ++ "--" :: behind)) =
      ⟨found, .operands (operands ++ behind)⟩ := by
  obtain ⟨last, -, hscan⟩ := reads.scanArguments_eq table [] program ("--" :: behind)
  have hlooks : shape "--" = .terminator := by decide
  rw [scan, hscan, List.nil_append, scanArguments]
  simp only [hlooks]
  exact congrArg (Scan.mk · _) (List.append_nil found)

/-- The argument at the stop is named, or what was passed before. -/
theorem scan_of_offends (several : specs.length ≠ 1) {culprit : String}
    {more : List (Occurrence κ)} {unfinished : Bool}
    (offends : Offends specs culprit more unfinished)
    (program : String) (behind : List String) :
    scan specs (program :: (before ++ culprit :: behind)) =
      ⟨found ++ more, .unknownOption (if unfinished then
        operands.getLast?.getD (before.getLast?.getD program) else culprit)⟩ := by
  obtain ⟨last, hlast, hscan⟩ := reads.scanArguments_eq table [] program (culprit :: behind)
  have hpassed : operands.getLast?.getD last =
      operands.getLast?.getD (before.getLast?.getD program) := by
    cases hoperand : operands.getLast? with
    | some operand => rfl
    | none => exact hlast (List.getLast?_eq_none_iff.1 hoperand)
  rw [scan, hscan, List.nil_append, offends.scanArguments_eq table several, hpassed]
  rfl

theorem scan_of_wants {culprit : String} {more : List (Occurrence κ)} {key : κ}
    (wants : Wants specs culprit more key) (program : String) :
    scan specs (program :: (before ++ [culprit])) = ⟨found ++ more, .missingValue culprit⟩ := by
  obtain ⟨last, -, hscan⟩ := reads.scanArguments_eq table [] program [culprit]
  rw [scan, hscan, wants.scanArguments_eq table, scanArguments, ← Scan.after_append]
  exact congrArg (Scan.mk · _) (List.append_nil _)

/-- What offends is not read, nor is what is behind it. -/
theorem length_le_of_offends (several : specs.length ≠ 1) {culprit : String}
    {more : List (Occurrence κ)} {unfinished : Bool}
    (offends : Offends specs culprit more unfinished)
    {arguments operands' behind behind' : List String} {found' : List (Occurrence κ)}
    (reads' : Reads specs arguments found' operands')
    (same : arguments ++ behind' = before ++ culprit :: behind) :
    arguments.length ≤ before.length := by
  rcases List.append_eq_append_iff.1 same with ⟨middle, rfl, -⟩ | ⟨middle, rfl, hmiddle⟩
  · rw [List.length_append]
    exact Nat.le_add_right _ _
  · cases middle with
    | nil => rw [List.append_nil]
    | cons next middle =>
      obtain ⟨rfl, -⟩ := List.cons.inj hmiddle
      have hscan := (reads'.scan_of_finished table "").symm.trans
        (reads.scan_of_offends table several offends "" middle)
      cases congrArg Scan.ending hscan

end Reads

/-- An argument tells whether there is more of it. -/
theorem Offends.unfinished_unique (several : specs.length ≠ 1) {argument : String}
    {found found' : List (Occurrence κ)} {unfinished unfinished' : Bool}
    (offends : Offends specs argument found unfinished)
    (offends' : Offends specs argument found' unfinished') : unfinished = unfinished' := by
  have hscan := (offends.scanArguments_eq table several [] (argument ++ "-") []).symm.trans
    (offends'.scanArguments_eq table several [] (argument ++ "-") [])
  have hdash : argument ++ "-" ≠ argument := fun h => by
    simpa using congrArg (fun text => text.toList.length) h
  have hblamed := ScanEnd.unknownOption.inj (congrArg Scan.ending hscan)
  cases unfinished <;> cases unfinished' <;> simp_all [eq_comm]

/-- There is but one place where a command line offends. -/
theorem Offends.place_unique (several : specs.length ≠ 1) {culprit culprit' : String}
    {before before' operands operands' behind behind' : List String}
    {found found' more more' : List (Occurrence κ)} {unfinished unfinished' : Bool}
    (reads : Reads specs before found operands) (offends : Offends specs culprit more unfinished)
    (reads' : Reads specs before' found' operands')
    (offends' : Offends specs culprit' more' unfinished')
    (same : before ++ culprit :: behind = before' ++ culprit' :: behind') :
    before = before' ∧ culprit = culprit' ∧ unfinished = unfinished' := by
  have hlength : before.length = before'.length :=
    Nat.le_antisymm (reads'.length_le_of_offends table several offends' reads same)
      (reads.length_le_of_offends table several offends reads' same.symm)
  obtain ⟨rfl, hrest⟩ := List.append_inj same hlength
  obtain ⟨rfl, -⟩ := List.cons.inj hrest
  exact ⟨rfl, rfl, offends.unfinished_unique table several offends'⟩

end Scanning

end CommandLine
end BrokerLoad
