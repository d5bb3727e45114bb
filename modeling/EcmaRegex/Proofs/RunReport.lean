import EcmaRegex.Cli.Tools
import EcmaRegex.Unicode.Tables
import EcmaRegex.Proofs.ByteRanges
/-!
# What a run of the command reports

Whatever libraries the command runs with (`Cli.Tools` and the Unicode library), a run that
starts, from a command line that its parser reads and a config file that its reader parses, with
flags that parse and at least one pattern, reads every pattern with the same flags and options
and reports each one: the tokens of those it reads on standard output, the diagnostics of those it
refuses on standard error, both in the order the patterns were given.  `reports_each_pattern`
states the outcome as a whole, `Reports`, from a description of the run in its own terms:

* `ConfigRead` and `FlagsChosen` say which config and flags the command line leads to: `-f`
  decides the flags whenever it is given, whatever the config file says;
* `chosenOptions` turns the option on when the command line or the config file does;
* `namedPatterns` lists the patterns with their names, `args[i]` and then `path[i]`;
* `listing` is what standard output shows of a pattern read without error.

The run itself is a fold over the patterns that appends to the two outputs and to the list of
diagnostics; `foldl_reportInput` says what the fold leaves from any starting point, and the
diagnostics are written out, with their count, only once the fold is over (`finish`).

The text of a pattern is shown as it was given, since text written as UTF-16 reads back as
the same text (`Utf16.decodeLossy_encode`).
-/

namespace EcmaRegex

namespace Utf16

/-- The units of one character read back as that character: a character below `0x10000` is
no surrogate, and a pair combines back into the character it was split from. -/
theorem decodeChars_encodeChar (c : Char) : decodeChars (encodeChar c) = [c] := by
  have hvalid := c.valid
  unfold encodeChar
  split
  · next hlt =>
    have hsur : ¬ (0xD800 ≤ c.val.toNat ∧ c.val.toNat ≤ 0xDFFF) := by
      simp only [UInt32.isValidChar, Nat.isValidChar] at hvalid
      omega
    simp only [decodeChars, Bool.and_eq_true, decide_eq_true_eq, if_neg hsur, List.cons.injEq,
      and_true]
    exact Char.ofNat_toNat c
  · next hge =>
    have hlt : c.val.toNat < 0x110000 := by
      simp only [UInt32.isValidChar, Nat.isValidChar] at hvalid
      omega
    have hpair : (isHigh (0xD800 + (c.val.toNat - 0x10000) / 0x400) &&
        isLow (0xDC00 + (c.val.toNat - 0x10000) % 0x400)) = true := by
      simp only [isHigh, isLow, Bool.and_eq_true, decide_eq_true_eq]
      omega
    have hcombine : combine (0xD800 + (c.val.toNat - 0x10000) / 0x400)
        (0xDC00 + (c.val.toNat - 0x10000) % 0x400) = c.val.toNat := by
      unfold combine
      omega
    simp only [decodeChars, if_pos hpair, hcombine, List.cons.injEq, and_true]
    exact Char.ofNat_toNat c

/-- No character's units end in a high surrogate. -/
theorem splitsPair_encodeChar (c : Char) (q : List Nat) : SplitsPair (encodeChar c) q = false := by
  unfold encodeChar SplitsPair
  split
  · next hlt =>
    have hhigh : isHigh c.val.toNat = false := by
      have hvalid := c.valid
      simp only [UInt32.isValidChar, Nat.isValidChar] at hvalid
      simp only [isHigh, Bool.and_eq_false_iff, decide_eq_false_iff_not]
      omega
    rw [List.getLast?_singleton, Option.any_some, hhigh, Bool.false_and]
  · have hlow : isHigh (0xDC00 + (c.val.toNat - 0x10000) % 0x400) = false := by
      simp only [isHigh, Bool.and_eq_false_iff, decide_eq_false_iff_not]
      omega
    simp only []
    rw [List.getLast?_cons_cons, List.getLast?_singleton, Option.any_some, hlow, Bool.false_and]

/-- The units of a list of characters read back as those characters. -/
theorem decodeChars_flatMap_encodeChar (cs : List Char) :
    decodeChars (cs.flatMap encodeChar) = cs := by
  induction cs with
  | nil => rfl
  | cons c rest ih =>
    rw [List.flatMap_cons, decodeChars_append _ _ (splitsPair_encodeChar c _),
      decodeChars_encodeChar, ih, List.singleton_append]

/-- Text written as UTF-16 reads back as the same text. -/
theorem decodeLossy_encode (s : String) : decodeLossy (encode s) = s := by
  rw [decodeLossy, encode, decodeChars_flatMap_encodeChar, String.ofList_toList]

end Utf16

namespace Cli

/-! ### The run described in its own terms -/

/-- The config a command line leads to: none without `-c`, and otherwise what the config reader
makes of the file at the given path. -/
def ConfigRead (tools : Tools) (files : List (String × String)) (settings : Settings) :
    Option Config → Prop
  | none => settings.config = none
  | some c => ∃ path content, settings.config = some path ∧
      readFile files path = .ok content ∧ tools.parseConfig content = .ok c

/-- The flags every pattern is read with: those of `-f` when it is given, whatever the config
holds; otherwise those of the config; otherwise none. -/
def FlagsChosen (settings : Settings) (config : Option Config) (flags : Flags) : Prop :=
  match settings.flags, config with
  | some text, _ => Flags.parse text = .ok flags
  | none, some c => c.regexFlags = .ok flags
  | none, none => flags = Flags.none

/-- The options every pattern is read with: `u180eWhitespace` is on when the command line or
the config file turns it on. -/
def chosenOptions (settings : Settings) (config : Option Config) : Options :=
  ⟨settings.u180eWhitespace || (config.bind (·.options)).any (·.u180eWhitespace)⟩

/-- The patterns of a run in the order they are read, each with the name it is reported
under: those of the command line, `args[0]`, `args[1]`, …, then those of the config file,
named after its path. -/
def namedPatterns (settings : Settings) (config : Option Config) : List (String × String) :=
  settings.patterns.zipIdx.map (fun (p, i) => ("args[" ++ toString i ++ "]", p)) ++
    ((config.bind (·.patterns)).getD []).zipIdx.map
      (fun (p, i) => (settings.config.getD configFileName ++ "[" ++ toString i ++ "]", p))

/-- What standard output shows of a pattern read without error: the pattern between slashes
and its flags, then one indented line per token; when only counting, the same header with
the number of tokens. -/
def listing (pattern : String) (flags : Flags) (countOnly : Bool) (tokens : List Token) : String :=
  if countOnly then "/" ++ pattern ++ "/" ++ flags.text ++ ": " ++ toString tokens.length ++ "\n"
  else
    "/" ++ pattern ++ "/" ++ flags.text ++ "\n" ++
      String.join (tokens.map fun t => "  " ++ t.display ++ "\n")

/-- The closing line of a run with `n` errors, after a blank line: the singular for exactly
one error. -/
def summary (n : Nat) : String :=
  if n = 1 then "\nFound 1 error.\n" else "\nFound " ++ toString n ++ " errors.\n"

/-- What a run reports on the named patterns it reads with `read` under `flags`: standard
output lists, in input order, the tokens of each pattern that reads; without `--pretty`,
standard error lists, in input order, the diagnostic of each pattern that fails, under the
pattern's name, then their number; the exit code is 2 when some pattern failed and 0
otherwise. -/
def Reports (settings : Settings) (named : List (String × String))
    (read : String → Except SyntaxError (List Token)) (flags : Flags) (out : Outcome) : Prop :=
  let failures := named.filterMap fun (origin, p) =>
    match read p with
    | .ok _ => none
    | .error e => some (e.toDiagnostic origin)
  out.stdout = String.join (named.filterMap fun (_, p) =>
      match read p with
      | .ok tokens => some (listing p flags settings.count tokens)
      | .error _ => none) ∧
    (settings.pretty = false → out.stderr =
      if failures = [] then ""
      else String.join (failures.map (·.line ++ "\n")) ++ summary failures.length) ∧
    out.exit = (if failures = [] then 0 else 2)

theorem eq_ok_of_toOption {ε α : Type} {e : Except ε α} {a : α} (h : e.toOption = some a) :
    e = .ok a := by
  cases e with
  | error _ => cases h
  | ok b =>
    cases h
    rfl

/-! ### Setting up the run -/

theorem run_of_readArgs {tools : Tools} {library : UnicodeLibrary} {args : List String}
    {files : List (String × String)} {settings : Settings}
    (hargs : tools.readArgs args = .ok settings) (hinit : settings.init = false) :
    run tools library args files = runLex tools library settings files := by
  simp only [run, hargs, hinit, Bool.false_eq_true, if_false]

theorem readConfig_of_read {tools : Tools} {files : List (String × String)} {settings : Settings}
    {config : Option Config} (h : ConfigRead tools files settings config) :
    readConfig tools settings files = .ok config := by
  cases config with
  | none =>
    simp only [readConfig, show settings.config = none from h]
  | some c =>
    obtain ⟨path, content, hpath, hread, hparse⟩ := h
    simp only [readConfig, hpath, loadConfig, hread, hparse, Except.map]

theorem resolveFlags_of_chosen {settings : Settings} {config : Option Config} {flags : Flags}
    (h : FlagsChosen settings config flags) : resolveFlags settings config = .ok flags := by
  unfold FlagsChosen at h
  unfold resolveFlags
  cases hf : settings.flags with
  | some text =>
    rw [hf] at h
    simp only [h]
  | none =>
    rw [hf] at h
    cases config with
    | some c => simp only [h]
    | none => simp only [h]

theorem options_eq_chosen (settings : Settings) (config : Option Config) :
    (if settings.u180eWhitespace then ({ u180eWhitespace := true } : Options)
      else (config.bind (·.options)).getD {}) = chosenOptions settings config := by
  unfold chosenOptions
  cases settings.u180eWhitespace with
  | true => rfl
  | false =>
    cases config.bind (·.options) with
    | none => rfl
    | some o => rfl

/-- The input a named pattern becomes under the flags and options of the run. -/
def namedInput (flags : Flags) (options : Options) : String × String → Input
  | (origin, p) => ⟨origin, (Source.ofString p flags).withOptions options⟩

theorem inputs_eq (settings : Settings) (config : Option Config) (flags : Flags)
    (options : Options) :
    inputs settings config flags options =
      (namedPatterns settings config).map (namedInput flags options) := by
  simp only [inputs, namedPatterns, List.map_append, List.map_map]
  rfl

theorem text_ofString (p : String) (flags : Flags) (options : Options) :
    ((Source.ofString p flags).withOptions options).text = p := by
  simp only [Source.text, Source.withOptions, Source.ofString, Utf16.decodeLossy_encode]

/-! ### The fold over the patterns -/

/-- The fold over the inputs adds, to what it starts from, the token listings of the inputs
that read, the reports of those that fail when `--pretty` is given, and the diagnostics of
those that fail, each in input order. -/
theorem foldl_reportInput (tools : Tools) (library : UnicodeLibrary) (settings : Settings)
    (ins : List Input) (out err : String) (ds : List Diagnostic) :
    ins.foldl (reportInput tools library settings) (out, err, ds) =
      (out ++ String.join (ins.filterMap fun i => match tokenize library i.source with
          | .ok tokens => some (tokenLines i tokens settings.count)
          | .error _ => none),
        (if settings.pretty then
          err ++ String.join (ins.filterMap fun i => match tokenize library i.source with
            | .ok _ => none
            | .error e => some (prettyReport tools e))
        else err),
        ds ++ ins.filterMap fun i => match tokenize library i.source with
          | .ok _ => none
          | .error e => some (e.toDiagnostic i.origin)) := by
  induction ins generalizing out err ds with
  | nil =>
    cases settings.pretty <;> simp
  | cons i rest ih =>
    rw [List.foldl_cons]
    cases h : tokenize library i.source with
    | ok tokens =>
      simp only [reportInput, h, ih, List.filterMap_cons, String.join_cons, String.append_assoc]
    | error e =>
      cases hp : settings.pretty with
      | true =>
        simp only [reportInput, h, hp, if_true, ih, List.filterMap_cons, String.join_cons,
          String.append_assoc, List.append_assoc, List.singleton_append]
      | false =>
        simp only [reportInput, h, hp, ih, Bool.false_eq_true, if_false, List.filterMap_cons,
          List.append_assoc, List.singleton_append]

/-- The listing of an input read without error shows its pattern as it was given. -/
theorem filterMap_tokenLines (library : UnicodeLibrary) (flags : Flags) (options : Options)
    (countOnly : Bool) (named : List (String × String)) :
    (named.map (namedInput flags options)).filterMap (fun i => match tokenize library i.source with
        | .ok tokens => some (tokenLines i tokens countOnly)
        | .error _ => none) =
      named.filterMap fun (_, p) =>
        match tokenize library ((Source.ofString p flags).withOptions options) with
        | .ok tokens => some (listing p flags countOnly tokens)
        | .error _ => none := by
  rw [List.filterMap_map]
  apply congrArg (List.filterMap · named)
  funext x
  obtain ⟨origin, p⟩ := x
  simp only [Function.comp, namedInput, tokenLines, text_ofString, listing]
  rfl

theorem filterMap_toDiagnostic (library : UnicodeLibrary) (flags : Flags) (options : Options)
    (named : List (String × String)) :
    (named.map (namedInput flags options)).filterMap (fun i => match tokenize library i.source with
        | .ok _ => none
        | .error e => some (e.toDiagnostic i.origin)) =
      named.filterMap fun (origin, p) =>
        match tokenize library ((Source.ofString p flags).withOptions options) with
        | .ok _ => none
        | .error e => some (e.toDiagnostic origin) := by
  rw [List.filterMap_map]
  rfl

/-! ### The end of the run -/

section Finish

variable (settings : Settings) (files : List (String × String)) (out err : String)
  (ds : List Diagnostic)

theorem finish_stdout : (finish settings files out err ds).stdout = out := by
  unfold finish
  split <;> rfl

theorem finish_exit : (finish settings files out err ds).exit = if ds = [] then 0 else 2 := by
  unfold finish
  cases ds <;> rfl

/-- Without `--pretty` the diagnostics are listed after what standard error holds, then their
count, in the singular for one. -/
theorem finish_stderr (hp : settings.pretty = false) :
    (finish settings files out err ds).stderr =
      err ++
        if ds = [] then "" else String.join (ds.map (·.line ++ "\n")) ++ summary ds.length := by
  unfold finish summary
  cases ds with
  | nil => simp
  | cons d rest =>
    by_cases hone : (d :: rest).length = 1
    · simp only [List.isEmpty_cons, Bool.false_eq_true, if_false, hp, hone, if_true,
        reduceCtorEq, String.append_assoc]
      rfl
    · simp only [List.isEmpty_cons, Bool.false_eq_true, if_false, hp, hone, reduceCtorEq,
        String.append_assoc]
      rfl

end Finish

/-! ### The whole run -/

/-- Whatever libraries the command runs with, a run whose command line reads, whose config
file, if named, parses, whose flags parse and which has a pattern reads every pattern with the
same flags and options and reports each one, in input order and under its name. -/
theorem reports_each_pattern (tools : Tools) (library : UnicodeLibrary) (args : List String)
    (files : List (String × String)) (settings : Settings) (config : Option Config) (flags : Flags)
    (hargs : tools.readArgs args = .ok settings) (hinit : settings.init = false)
    (hconfig : ConfigRead tools files settings config) (hflags : FlagsChosen settings config flags)
    (hpatterns : namedPatterns settings config ≠ []) :
    Reports settings (namedPatterns settings config)
      (fun p => tokenize library
        ((Source.ofString p flags).withOptions (chosenOptions settings config)))
      flags (run tools library args files) := by
  unfold Reports
  intro failures
  -- the run starts: the config is read, the flags are settled and there is an input
  have hne : ((namedPatterns settings config).map
      (namedInput flags (chosenOptions settings config))).isEmpty = false := by
    rw [List.isEmpty_eq_false_iff]
    simpa using hpatterns
  -- then it is the fold over the inputs, and what it gathered is written out
  have hlex : runLex tools library settings files = finish settings files
      (String.join ((namedPatterns settings config).filterMap fun (_, p) =>
        match tokenize library
          ((Source.ofString p flags).withOptions (chosenOptions settings config)) with
        | .ok tokens => some (listing p flags settings.count tokens)
        | .error _ => none))
      (if settings.pretty then String.join (((namedPatterns settings config).map
          (namedInput flags (chosenOptions settings config))).filterMap fun i =>
            match tokenize library i.source with
            | .ok _ => none
            | .error e => some (prettyReport tools e)) else "")
      failures := by
    simp only [runLex, readConfig_of_read hconfig, resolveFlags_of_chosen hflags, inputs_eq,
      options_eq_chosen, hne, Bool.false_eq_true, if_false, foldl_reportInput,
      filterMap_tokenLines, filterMap_toDiagnostic, String.empty_append, List.nil_append]
    rfl
  rw [run_of_readArgs hargs hinit, hlex]
  refine ⟨finish_stdout .., fun hp => ?_, finish_exit ..⟩
  rw [finish_stderr _ _ _ _ _ hp, hp, if_neg Bool.false_ne_true, String.empty_append]

/-- A run with `-f u` and a config file whose own flags `x` would be refused: the flags of the
command line are taken, and of the four patterns the second of the command line and the first
of the file fail, each reported under its name. -/
theorem flag_option_run_reports :
    let args := ["-f", "u", "-c", "rsregex.json", "a+", "*"]
    let files := [("rsregex.json", "\x7b\"flags\": \"x\", \"patterns\": [\"[z-a]\", \"b\"]\x7d")]
    let settings : Settings :=
      { patterns := ["a+", "*"], flags := some "u", config := some "rsregex.json" }
    let config : Option Config := some { flags := some "x", patterns := some ["[z-a]", "b"] }
    let flags : Flags := { unicode := true }
    (tools.readArgs args = .ok settings ∧ settings.init = false ∧
      ConfigRead tools files settings config ∧ FlagsChosen settings config flags ∧
      namedPatterns settings config ≠ []) ∧
    Reports settings (namedPatterns settings config)
      (fun p => tokenize Unicode.tables
        ((Source.ofString p flags).withOptions (chosenOptions settings config)))
      flags (run tools Unicode.tables args files) :=
  ⟨⟨eq_ok_of_toOption (by decide +kernel), rfl, ⟨_, _, rfl, rfl, rfl⟩, rfl,
      by simp [namedPatterns]⟩,
    reports_each_pattern tools Unicode.tables _ _ _ _ _ (eq_ok_of_toOption (by decide +kernel))
      rfl ⟨_, _, rfl, rfl, rfl⟩ rfl (by simp [namedPatterns])⟩

end Cli

end EcmaRegex
