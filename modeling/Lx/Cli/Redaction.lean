import Lx.Cli.JsonSerializer

/-!
# Redaction of command arguments

`src/cli/CliApp.cpp` has its own copy of the redaction in `src/cli/JsonSerializer.cpp`.
Both walk over the arguments with a flag that says that the next one is a secret, and
both print what they do not hide. The question here is what two argument vectors must
have in common for nobody to tell them apart by the output.

## Layers

- The copy of the human output, and that the two copies agree (§1).
- The output argument by argument: which ones are taken as values (§2), and which ones
  lose the text after `=` (§3).
- Two runs: the outputs are equal exactly for vectors that differ in secrets only (§4).
- One run on the output of another: nothing is left to hide (§5).
-/

namespace Lx.Cli

/-! ## §1 The human output -/

def isSecretKey (key : Bytes) : Bool :=
  let normalized := Bytes.lower key
  normalized == Bytes.ofString "password" || normalized == Bytes.ofString "passwd" ||
    normalized == Bytes.ofString "token" || normalized == Bytes.ofString "api-key" ||
    normalized == Bytes.ofString "apikey" || normalized == Bytes.ofString "secret" ||
    normalized == Bytes.ofString "database_url"

/-- The loop of `displayedArguments`; the flag is `redactNext`. -/
def displayed : Bool → List Bytes → List Bytes
  | _, [] => []
  | true, _ :: rest => Bytes.ofString "<redacted>" :: displayed false rest
  | false, argument :: rest =>
    if isSecretKey (argumentKey argument) then
      if 61 ∈ argument then
        (argument.takeWhile (· ≠ 61) ++ [61] ++ Bytes.ofString "<redacted>") ::
          displayed false rest
      else argument :: displayed true rest
    else argument :: displayed false rest

def displayedArguments (arguments : List Bytes) (raw : Bool) : List Bytes :=
  if raw then arguments else displayed false arguments

/-- The two copies of the loop are the same function. -/
theorem displayed_eq_redact (redactNext : Bool) (argv : List Bytes) :
    displayed redactNext argv = redact redactNext argv := by
  induction argv generalizing redactNext with
  | nil => cases redactNext <;> rfl
  | cons argument rest ih =>
    cases redactNext with
    | true => simp only [displayed, redact, ih]
    | false =>
      have hkey : isSecretKey (argumentKey argument) = secretKey (argumentKey argument) := rfl
      simp only [displayed, redact, ih, hkey]

/-- **Human and JSON output redact alike.** -/
theorem displayedArguments_eq_arguments (argv : List Bytes) (raw : Bool) :
    displayedArguments argv raw = arguments argv raw := by
  simp only [displayedArguments, arguments, displayed_eq_redact]

/-! ## §2 Which arguments are taken as values -/

/-- A secret name by itself: dashes are ignored, and no value is attached with `=`. -/
def secretName (argument : Bytes) : Bool :=
  secretKey (argument.dropWhile (· = 45)) && !decide (61 ∈ argument)

/-- The argument at this index comes right after a secret name. -/
def followsName (argv : List Bytes) : Nat → Bool
  | 0 => false
  | i + 1 => argv[i]?.any secretName

/-- The argument at this index is the value of the secret name before it. An argument
that is such a value is not read as a name itself: the loop steps over it. -/
def takenAsValue (argv : List Bytes) : Nat → Bool
  | 0 => false
  | i + 1 => argv[i]?.any secretName && !takenAsValue argv i

theorem ne_equal_of_notMem {key : Bytes} (h : 61 ∉ key) :
    ∀ byte ∈ key, decide (byte ≠ 61) = true := by
  intro byte hbyte
  have hne : byte ≠ 61 := fun heq => h (heq ▸ hbyte)
  simpa using hne

/-- Without a `=` the whole argument is the key. -/
theorem takeWhile_eq_self_of_notMem {argument : Bytes} (h : 61 ∉ argument) :
    argument.takeWhile (· ≠ 61) = argument := by
  have happend : (argument ++ []).takeWhile (· ≠ 61) = argument ++ [].takeWhile (· ≠ 61) :=
    List.takeWhile_append_of_pos (ne_equal_of_notMem h)
  simpa using happend

/-- With one, the key is the text before the first. -/
theorem takeWhile_append_equal {key : Bytes} (h : 61 ∉ key) (value : Bytes) :
    (key ++ 61 :: value).takeWhile (· ≠ 61) = key := by
  rw [List.takeWhile_append_of_pos (ne_equal_of_notMem h)]
  simp

/-- The flag after an argument that was read as a name. -/
theorem secretName_eq (argument : Bytes) :
    secretName argument = (secretKey (argumentKey argument) && !decide (61 ∈ argument)) := by
  by_cases h : 61 ∈ argument
  · simp [secretName, h]
  · simp only [secretName, argumentKey, takeWhile_eq_self_of_notMem h]

/-! ## §3 What is printed -/

/-- An argument that is not a value, as it is printed. -/
def hidden (argument : Bytes) : Bytes :=
  if secretKey (argumentKey argument) && decide (61 ∈ argument) then
    argument.takeWhile (· ≠ 61) ++ [61] ++ Bytes.ofString "<redacted>"
  else argument

/-- One round of the loop: what it prints, and the flag it hands on. -/
theorem redact_cons (redactNext : Bool) (argument : Bytes) (rest : List Bytes) :
    redact redactNext (argument :: rest) =
      (if redactNext then Bytes.ofString "<redacted>" else hidden argument) ::
        redact (secretName argument && !redactNext) rest := by
  cases redactNext with
  | true => simp [redact]
  | false =>
    rw [secretName_eq]
    by_cases hkey : secretKey (argumentKey argument)
    · by_cases hequal : 61 ∈ argument <;> simp [redact, hidden, hkey, hequal]
    · simp [redact, hidden, hkey]

/-- The loop started at an index of the vector, with the flag that belongs there. -/
theorem redact_append (argv done rest : List Bytes) (hargv : argv = done ++ rest) (i : Nat) :
    (redact (takenAsValue argv done.length) rest)[i]? =
      rest[i]?.map fun argument =>
        if takenAsValue argv (done.length + i) then Bytes.ofString "<redacted>"
        else hidden argument := by
  induction rest generalizing done i with
  | nil => cases takenAsValue argv done.length <;> simp [redact]
  | cons argument rest ih =>
    rw [redact_cons]
    cases i with
    | zero => simp
    | succ i =>
      -- the flag handed on is the one of the next index
      have hhere : argv[done.length]? = some argument := by simp [hargv]
      have hflag : takenAsValue argv (done ++ [argument]).length =
          (secretName argument && !takenAsValue argv done.length) := by
        simp [takenAsValue, hhere]
      have hnext := ih (done ++ [argument]) (by simp [hargv]) i
      rw [hflag] at hnext
      simp only [List.getElem?_cons_succ, hnext, List.length_append, List.length_singleton]
      rw [Nat.add_assoc, Nat.add_comm 1 i]

theorem length_redact (redactNext : Bool) (argv : List Bytes) :
    (redact redactNext argv).length = argv.length := by
  induction argv generalizing redactNext with
  | nil => cases redactNext <;> rfl
  | cons argument rest ih => rw [redact_cons, List.length_cons, List.length_cons, ih]

/-- **The output at one index.** -/
theorem redact_getElem? (argv : List Bytes) (i : Nat) :
    (redact false argv)[i]? =
      argv[i]?.map fun argument =>
        if takenAsValue argv i then Bytes.ofString "<redacted>" else hidden argument := by
  simpa [takenAsValue] using redact_append argv [] argv rfl i

/-! ## §4 Two runs -/

/-- Both arguments have the form `key=value`, with the same secret key. -/
def SameSecretKey (argument argument' : Bytes) : Prop :=
  ∃ key value value' : Bytes, secretKey (key.dropWhile (· = 45)) ∧ 61 ∉ key ∧
    argument = key ++ 61 :: value ∧ argument' = key ++ 61 :: value'

/-- Two vectors of one length that differ in secrets only. Which arguments are the
values of secret names is a parameter. -/
def DifferInSecrets (valued : List Bytes → Nat → Bool) (argv argv' : List Bytes) : Prop :=
  argv.length = argv'.length ∧
    ∀ i argument argument', argv[i]? = some argument → argv'[i]? = some argument' →
      argument = argument' ∨ (valued argv i ∧ valued argv' i) ∨
        SameSecretKey argument argument'

theorem hidden_equal {key : Bytes} (hsecret : secretKey (key.dropWhile (· = 45)))
    (h : 61 ∉ key) (value : Bytes) :
    hidden (key ++ 61 :: value) = key ++ 61 :: Bytes.ofString "<redacted>" := by
  have hkey : secretKey (argumentKey (key ++ 61 :: value)) = true := by
    rw [argumentKey, takeWhile_append_equal h]
    exact hsecret
  have hequal : decide (61 ∈ key ++ 61 :: value) = true := by simp
  have hboth : (secretKey (argumentKey (key ++ 61 :: value)) &&
      decide (61 ∈ key ++ 61 :: value)) = true := by rw [hkey, hequal]; rfl
  rw [hidden, if_pos hboth, takeWhile_append_equal h, List.append_assoc]
  rfl

/-- Either an argument is printed as it is, or it is a secret key with a value. -/
theorem hidden_cases (argument : Bytes) :
    hidden argument = argument ∨
      ∃ key value : Bytes, secretKey (key.dropWhile (· = 45)) ∧ 61 ∉ key ∧
        argument = key ++ 61 :: value := by
  by_cases h : secretKey (argumentKey argument) && decide (61 ∈ argument)
  · right
    simp only [Bool.and_eq_true, decide_eq_true_eq] at h
    obtain ⟨key, value, rfl, hkey⟩ := List.eq_append_cons_of_mem h.2
    have hsecret := h.1
    rw [argumentKey, takeWhile_append_equal hkey] at hsecret
    exact ⟨key, value, hsecret, hkey, rfl⟩
  · left
    rw [hidden, if_neg h]

/-- The text after the first `=` is all that is lost. -/
theorem hidden_eq_iff (argument argument' : Bytes) :
    hidden argument = hidden argument' ↔
      argument = argument' ∨ SameSecretKey argument argument' := by
  constructor
  · intro heq
    rcases hidden_cases argument with hplain | ⟨key, value, hsecret, hkey, rfl⟩
    · rcases hidden_cases argument' with hplain' | ⟨key, value, hsecret, hkey, rfl⟩
      · left
        rw [← hplain, heq, hplain']
      · -- the plain one is spelled like the hidden one
        right
        rw [hplain, hidden_equal hsecret hkey] at heq
        exact ⟨key, _, value, hsecret, hkey, heq, rfl⟩
    · right
      rw [hidden_equal hsecret hkey] at heq
      rcases hidden_cases argument' with hplain' | ⟨key', value', hsecret', hkey', rfl⟩
      · rw [hplain'] at heq
        exact ⟨key, value, _, hsecret, hkey, rfl, heq.symm⟩
      · rw [hidden_equal hsecret' hkey'] at heq
        -- both are cut at their first `=`, so the keys can be read off
        have hkeys : key = key' := by
          have htake := congrArg (List.takeWhile (· ≠ 61)) heq
          rwa [takeWhile_append_equal hkey, takeWhile_append_equal hkey'] at htake
        exact ⟨key, value, value', hsecret, hkey, rfl, by rw [hkeys]⟩
  · rintro (rfl | ⟨key, value, value', hsecret, hkey, rfl, rfl⟩)
    · rfl
    · rw [hidden_equal hsecret hkey, hidden_equal hsecret hkey]

/-- Whether an argument is a name can be told from what is printed of it. -/
theorem secretName_eq_of_hidden_eq {argument argument' : Bytes}
    (h : hidden argument = hidden argument') : secretName argument = secretName argument' := by
  rcases (hidden_eq_iff argument argument').mp h with rfl | ⟨key, value, value', -, -, rfl, rfl⟩
  · rfl
  · simp [secretName]

/-- Two vectors are read alike as long as every argument that is not a value is printed
alike in both. -/
theorem takenAsValue_eq {argv argv' : List Bytes} (hlength : argv.length = argv'.length)
    (h : ∀ i argument argument', argv[i]? = some argument → argv'[i]? = some argument' →
      takenAsValue argv i = takenAsValue argv' i →
      takenAsValue argv i ∨ hidden argument = hidden argument') (i : Nat) :
    takenAsValue argv i = takenAsValue argv' i := by
  induction i with
  | zero => rfl
  | succ i ih =>
    simp only [takenAsValue, ← ih]
    by_cases hi : i < argv.length
    · have hargument := List.getElem?_eq_getElem hi
      have hargument' := List.getElem?_eq_getElem (hlength ▸ hi)
      rcases h i _ _ hargument hargument' ih with hvalue | hhidden
      · -- a value is stepped over, whatever it spells
        simp [hvalue]
      · rw [hargument, hargument']
        simp only [Option.any_some, secretName_eq_of_hidden_eq hhidden]
    · rw [List.getElem?_eq_none (by omega), List.getElem?_eq_none (by omega)]

theorem redact_eq_of_differInSecrets {argv argv' : List Bytes}
    (h : DifferInSecrets takenAsValue argv argv') : redact false argv = redact false argv' := by
  obtain ⟨hlength, hat⟩ := h
  -- first the flag: both loops take the same indices for values
  have hread : ∀ i, takenAsValue argv i = takenAsValue argv' i := by
    apply takenAsValue_eq hlength
    intro i argument argument' hargument hargument' _
    rcases hat i argument argument' hargument hargument' with heq | ⟨hvalue, -⟩ | hkey
    · exact .inr (by rw [heq])
    · exact .inl hvalue
    · exact .inr ((hidden_eq_iff argument argument').mpr (.inr hkey))
  apply List.ext_getElem?
  intro i
  rw [redact_getElem?, redact_getElem?, ← hread i]
  by_cases hi : i < argv.length
  · have hargument := List.getElem?_eq_getElem hi
    have hargument' := List.getElem?_eq_getElem (hlength ▸ hi)
    rw [hargument, hargument', Option.map_some, Option.map_some]
    by_cases hvalue : takenAsValue argv i
    · simp [hvalue]
    · rw [if_neg hvalue, if_neg hvalue]
      congr 1
      rcases hat i _ _ hargument hargument' with heq | ⟨hvalued, -⟩ | hkey
      · rw [heq]
      · exact absurd hvalued hvalue
      · exact (hidden_eq_iff _ _).mpr (.inr hkey)
  · rw [List.getElem?_eq_none (by omega), List.getElem?_eq_none (by omega)]

theorem differInSecrets_of_redact_eq {argv argv' : List Bytes}
    (h : redact false argv = redact false argv') : DifferInSecrets takenAsValue argv argv' := by
  have hlength : argv.length = argv'.length := by
    rw [← length_redact false argv, h, length_redact]
  -- an argument that is not a value is printed, up to its value part
  have hprinted : ∀ i argument argument', argv[i]? = some argument →
      argv'[i]? = some argument' → takenAsValue argv i = takenAsValue argv' i →
      takenAsValue argv i ∨ hidden argument = hidden argument' := by
    intro i argument argument' hargument hargument' hread
    have hat : (redact false argv)[i]? = (redact false argv')[i]? := by rw [h]
    rw [redact_getElem?, redact_getElem?, hargument, hargument', ← hread] at hat
    by_cases hvalue : takenAsValue argv i
    · exact .inl hvalue
    · right
      simpa [hvalue] using hat
  have hread := takenAsValue_eq hlength hprinted
  refine ⟨hlength, fun i argument argument' hargument hargument' => ?_⟩
  rcases hprinted i argument argument' hargument hargument' (hread i) with hvalue | hhidden
  · exact .inr (.inl ⟨hvalue, hread i ▸ hvalue⟩)
  · rcases (hidden_eq_iff argument argument').mp hhidden with heq | hkey
    · exact .inl heq
    · exact .inr (.inr hkey)

/-- **What the output reveals.** Two argument vectors look the same after redaction
exactly when they differ in secrets only. -/
theorem redact_eq_iff (argv argv' : List Bytes) :
    redact false argv = redact false argv' ↔ DifferInSecrets takenAsValue argv argv' :=
  ⟨differInSecrets_of_redact_eq, redact_eq_of_differInSecrets⟩

/-- **Secrets do not influence the output.** Here a secret is the value of a secret name
that is not itself such a value, or the text after the `=` of a secret key. -/
theorem redaction_noninterference (argv argv' : List Bytes)
    (h : DifferInSecrets takenAsValue argv argv') :
    displayedArguments argv false = displayedArguments argv' false ∧
      arguments argv false = arguments argv' false := by
  have hredact : redact false argv = redact false argv' := (redact_eq_iff argv argv').mpr h
  rw [displayedArguments_eq_arguments, displayedArguments_eq_arguments]
  exact ⟨by simpa [arguments] using hredact, by simpa [arguments] using hredact⟩

/-- A value and the text after a `=` are hidden, wherever they stand. -/
theorem redaction_noninterference_token :
    arguments [Bytes.ofString "--token", Bytes.ofString "a", Bytes.ofString "PASSWD=b"] false =
      arguments [Bytes.ofString "--token", Bytes.ofString "c", Bytes.ofString "PASSWD=d"] false := by
  have hdiffer : DifferInSecrets takenAsValue
      [Bytes.ofString "--token", Bytes.ofString "a", Bytes.ofString "PASSWD=b"]
      [Bytes.ofString "--token", Bytes.ofString "c", Bytes.ofString "PASSWD=d"] := by
    refine ⟨by simp, fun i argument argument' hargument hargument' => ?_⟩
    match i with
    | 0 => exact .inl (Option.some.inj (hargument.symm.trans hargument'))
    | 1 => exact .inr (.inl ⟨by decide, by decide⟩)
    | 2 =>
      right
      right
      cases hargument
      cases hargument'
      exact ⟨Bytes.ofString "PASSWD", Bytes.ofString "b", Bytes.ofString "d", by decide⟩
    | i + 3 => simp at hargument
  exact (redaction_noninterference _ _ hdiffer).2

/-- A secret name that is itself the value of a secret name hides nothing: the argument
after it is printed, by both copies. -/
theorem redaction_of_named_value :
    DifferInSecrets followsName
        [Bytes.ofString "--token", Bytes.ofString "--password", Bytes.ofString "a"]
        [Bytes.ofString "--token", Bytes.ofString "--password", Bytes.ofString "b"] ∧
      displayedArguments
          [Bytes.ofString "--token", Bytes.ofString "--password", Bytes.ofString "a"] false ≠
        displayedArguments
          [Bytes.ofString "--token", Bytes.ofString "--password", Bytes.ofString "b"] false ∧
      arguments
          [Bytes.ofString "--token", Bytes.ofString "--password", Bytes.ofString "a"] false ≠
        arguments
          [Bytes.ofString "--token", Bytes.ofString "--password", Bytes.ofString "b"] false := by
  have hprinted : arguments
        [Bytes.ofString "--token", Bytes.ofString "--password", Bytes.ofString "a"] false ≠
      arguments
        [Bytes.ofString "--token", Bytes.ofString "--password", Bytes.ofString "b"] false := by
    decide
  rw [displayedArguments_eq_arguments, displayedArguments_eq_arguments]
  refine ⟨⟨by simp, fun i argument argument' hargument hargument' => ?_⟩, hprinted, hprinted⟩
  match i with
  | 0 => exact .inl (Option.some.inj (hargument.symm.trans hargument'))
  | 1 => exact .inr (.inl ⟨by decide, by decide⟩)
  | 2 => exact .inr (.inl ⟨by decide, by decide⟩)
  | i + 3 => simp at hargument

/-! ## §5 Redacting again -/

/-- What is printed for an argument is printed for itself. -/
theorem hidden_hidden (argument : Bytes) : hidden (hidden argument) = hidden argument := by
  rcases hidden_cases argument with hplain | ⟨key, value, hsecret, hkey, rfl⟩
  · rw [hplain, hplain]
  · rw [hidden_equal hsecret hkey, hidden_equal hsecret hkey]

theorem secretName_hidden (argument : Bytes) : secretName (hidden argument) = secretName argument :=
  secretName_eq_of_hidden_eq (hidden_hidden argument)

/-- The second pass carries the flag of the first: after a value both are down, and after
    any other argument both say whether it was a name. -/
theorem redact_redact (redactNext : Bool) (argv : List Bytes) :
    redact redactNext (redact redactNext argv) = redact redactNext argv := by
  induction argv generalizing redactNext with
  | nil => cases redactNext <;> rfl
  | cons argument rest ih =>
    rw [redact_cons]
    cases redactNext with
    | true =>
      -- the value is not read as a name by either pass
      simp only [if_true, Bool.not_true, Bool.and_false, redact_cons, ih]
    | false =>
      simp only [Bool.false_eq_true, if_false, Bool.not_false, Bool.and_true, redact_cons,
        hidden_hidden, secretName_hidden, ih]

/-- The value of a secret name stands right after it. -/
theorem exists_name_of_takenAsValue {argv : List Bytes} {i : Nat} (h : takenAsValue argv i = true) :
    ∃ j name, i = j + 1 ∧ argv[j]? = some name ∧ secretName name = true := by
  cases i with
  | zero => cases h
  | succ j =>
    simp only [takenAsValue, Bool.and_eq_true, Option.any_eq_true] at h
    obtain ⟨⟨name, hname, hsecret⟩, -⟩ := h
    exact ⟨j, name, rfl, hname, hsecret⟩

/-- **The copies agree, and the output is stable.** Without `raw` every argument keeps its
    place, redacting the output changes nothing, and an argument changes in two ways only: it
    comes right after a secret name and is `<redacted>`, or it is a secret key whose text after
    the first `=` is. -/
theorem redaction_agrees_and_stable (argv : List Bytes) :
    (∀ raw, displayedArguments argv raw = arguments argv raw) ∧
      displayedArguments argv true = argv ∧
      (displayedArguments argv false).length = argv.length ∧
      displayedArguments (displayedArguments argv false) false = displayedArguments argv false ∧
      ∀ (i : Nat) (argument printed : Bytes), argv[i]? = some argument →
        (displayedArguments argv false)[i]? = some printed → printed = argument ∨
          (printed = Bytes.ofString "<redacted>" ∧ ∃ (j : Nat) (name : Bytes), i = j + 1 ∧
            argv[j]? = some name ∧ secretKey (name.dropWhile (· = 45)) ∧ 61 ∉ name) ∨
          ∃ key value : Bytes, secretKey (key.dropWhile (· = 45)) ∧ 61 ∉ key ∧
            argument = key ++ 61 :: value ∧
            printed = key ++ 61 :: Bytes.ofString "<redacted>" := by
  have hdisplayed : ∀ argv, displayedArguments argv false = redact false argv := by
    intro argv
    rw [displayedArguments, displayed_eq_redact, if_neg Bool.false_ne_true]
  refine ⟨displayedArguments_eq_arguments argv, rfl, ?_, ?_, ?_⟩
  · rw [hdisplayed, length_redact]
  · rw [hdisplayed, hdisplayed, redact_redact]
  · intro i argument printed hargument hprinted
    rw [hdisplayed, redact_getElem?, hargument, Option.map_some, Option.some.injEq] at hprinted
    by_cases hvalue : takenAsValue argv i
    · right; left
      rw [if_pos hvalue] at hprinted
      obtain ⟨j, name, hi, hname, hsecret⟩ := exists_name_of_takenAsValue hvalue
      simp only [secretName, Bool.and_eq_true, Bool.not_eq_true', decide_eq_false_iff_not]
        at hsecret
      exact ⟨hprinted.symm, j, name, hi, hname, hsecret.1, hsecret.2⟩
    · rw [if_neg hvalue] at hprinted
      rcases hidden_cases argument with hplain | ⟨key, value, hsecret, hkey, rfl⟩
      · left
        rw [← hprinted, hplain]
      · right; right
        rw [hidden_equal hsecret hkey] at hprinted
        exact ⟨key, value, hsecret, hkey, rfl, hprinted.symm⟩

end Lx.Cli
