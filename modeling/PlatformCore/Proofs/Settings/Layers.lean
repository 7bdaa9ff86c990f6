/-
  The settings that are loaded: a file over the defaults, variables over the file.

  * `Base` is the layer below the variables, `Layered` says what they make of it, each of its own
    field alone;
  * `overlay_eq_ok_iff` and `overlay_eq_error_iff`: the variables are laid over the base if every
    number can be read, and else the first that cannot is reported;
  * `Loading` says what settings are loaded, and in what order errors are found, given what can be
    read of a file and what settings a text spells;
  * `layered_of_load`: so it is for any reading and decoding, and for those of `Settings.load`.
-/
import PlatformCore.Proofs.Text.Numeral
import PlatformCore.Settings.Load

namespace PlatformCore

section
variable {ε ε' α β : Type} {x : Except ε α} {a : α} {b : β} {e : ε}

theorem bind_eq_ok_iff {f : α → Except ε β} :
    x >>= f = .ok b ↔ ∃ a, x = .ok a ∧ f a = .ok b := by
  cases x <;> simp [bind, Except.bind]

theorem bind_eq_error_iff {f : α → Except ε β} :
    x >>= f = .error e ↔ x = .error e ∨ ∃ a, x = .ok a ∧ f a = .error e := by
  cases x <;> simp [bind, Except.bind]

theorem mapError_ok (f : ε → ε') : (Except.ok a).mapError f = .ok a := rfl

theorem mapError_error (f : ε → ε') : (Except.error e : Except ε α).mapError f = .error (f e) := rfl

theorem mapError_eq_ok_iff {f : ε → ε'} : x.mapError f = .ok a ↔ x = .ok a := by
  cases x <;> simp [mapError_ok, mapError_error]

theorem mapError_eq_error_iff {f : ε → ε'} {e : ε'} :
    x.mapError f = .error e ↔ ∃ e', x = .error e' ∧ f e' = e := by
  cases x <;> simp [mapError_ok, mapError_error]

end

/-! ## Variables that hold numbers -/

/-- A variable for numbers below a bound. -/
structure NumberVariable where
  name : String
  bound : Nat

namespace NumberVariable

def maxLoginFailure : NumberVariable := ⟨"CK_MAX_LOGIN_FAILURE", 4294967296⟩

def banLengthSecs : NumberVariable := ⟨"CK_BAN_LENGTH_SECONDS", 18446744073709551616⟩

def tokenTtlSecs : NumberVariable := ⟨"CK_TOKEN_TTL_SECONDS", 18446744073709551616⟩

def capacity : NumberVariable := ⟨"CK_BUS_CAPACITY", 18446744073709551616⟩

/-- The variables in the order in which they are read. -/
def all : List NumberVariable := [maxLoginFailure, banLengthSecs, tokenTtlSecs, capacity]

variable {v : NumberVariable} {env : Environment} {old new : Nat} {b : BadVariable}

/-- A variable that spells a number, if it is set. -/
def IsGood (v : NumberVariable) (env : Environment) : Prop :=
  ∀ s, env v.name = some s → ∃ n, Text.Spells v.bound s n

/-- A variable that is set and spells no number. -/
structure IsBad (v : NumberVariable) (env : Environment) (b : BadVariable) : Prop where
  name : b.name = v.name
  set : env v.name = some b.value
  not_spells : ∀ n, ¬ Text.Spells v.bound b.value n

/-- A number is the one that the variable spells, or left as it is. -/
structure Sets (v : NumberVariable) (env : Environment) (old new : Nat) : Prop where
  set : ∀ s, env v.name = some s → Text.Spells v.bound s new
  unset : env v.name = none → new = old

def read (v : NumberVariable) (env : Environment) : Except BadVariable (Option Nat) :=
  env.number? v.bound v.name

theorem read_of_unset (h : env v.name = none) : v.read env = .ok none := by
  rw [read, Environment.number?, h]

theorem read_of_spells {s : String} {n : Nat} (h : env v.name = some s)
    (hs : Text.Spells v.bound s n) : v.read env = .ok (some n) := by
  rw [read, Environment.number?, h]
  simp only [Text.numeral?_trim_eq_some_iff.2 hs]

theorem read_of_not_spells {s : String} (h : env v.name = some s)
    (hs : ∀ n, ¬ Text.Spells v.bound s n) : v.read env = .error ⟨v.name, s⟩ := by
  have hn : Text.numeral? v.bound (Text.trim s.toList) = none := by
    rw [Option.eq_none_iff_forall_ne_some]
    intro n hn
    exact hs n (Text.numeral?_trim_eq_some_iff.1 hn)
  rw [read, Environment.number?, h]
  simp only [hn]

theorem cases_env (v : NumberVariable) (env : Environment) :
    env v.name = none ∨ (∃ s n, env v.name = some s ∧ Text.Spells v.bound s n) ∨
      ∃ s, env v.name = some s ∧ ∀ n, ¬ Text.Spells v.bound s n := by
  rcases hv : env v.name with _ | s
  · exact .inl rfl
  · by_cases hs : ∃ n, Text.Spells v.bound s n
    · obtain ⟨n, hn⟩ := hs
      exact .inr (.inl ⟨s, n, rfl, hn⟩)
    · exact .inr (.inr ⟨s, rfl, fun n hn => hs ⟨n, hn⟩⟩)

theorem sets_iff : v.Sets env old new ↔ ∃ r, v.read env = .ok r ∧ new = r.getD old := by
  rcases v.cases_env env with h | ⟨s, n, h, hs⟩ | ⟨s, h, hs⟩
  · rw [read_of_unset h]
    constructor
    · intro hv
      exact ⟨none, rfl, hv.unset h⟩
    · rintro ⟨_, ⟨⟩, hn⟩
      exact ⟨by simp [h], fun _ => hn⟩
  · rw [read_of_spells h hs]
    constructor
    · intro hv
      exact ⟨some n, rfl, (hv.set s h).unique hs⟩
    · rintro ⟨_, ⟨⟩, rfl⟩
      refine ⟨fun s' h' => ?_, by simp [h]⟩
      cases h.symm.trans h'
      exact hs
  · rw [read_of_not_spells h hs]
    constructor
    · intro hv
      exact absurd (hv.set s h) (hs new)
    · rintro ⟨_, ⟨⟩, -⟩

theorem isGood_iff : v.IsGood env ↔ ∃ r, v.read env = .ok r := by
  rcases v.cases_env env with h | ⟨s, n, h, hs⟩ | ⟨s, h, hs⟩
  · simp [IsGood, h, read_of_unset h]
  · simp only [IsGood, h, read_of_spells h hs, Option.some.injEq, forall_eq']
    exact ⟨fun _ => ⟨_, rfl⟩, fun _ => ⟨n, hs⟩⟩
  · simp [IsGood, h, read_of_not_spells h hs, hs]

theorem isBad_iff : v.IsBad env b ↔ v.read env = .error b := by
  rcases v.cases_env env with h | ⟨s, n, h, hs⟩ | ⟨s, h, hs⟩
  · rw [read_of_unset h]
    constructor
    · intro hb
      cases h.symm.trans hb.set
    · rintro ⟨⟩
  · rw [read_of_spells h hs]
    constructor
    · intro hb
      cases h.symm.trans hb.set
      exact absurd hs (hb.not_spells n)
    · rintro ⟨⟩
  · rw [read_of_not_spells h hs]
    constructor
    · rcases b with ⟨name, value⟩
      rintro ⟨rfl, hset, -⟩
      cases h.symm.trans hset
      rfl
    · rintro ⟨⟩
      exact ⟨rfl, h, hs⟩

theorem Sets.isGood (h : v.Sets env old new) : v.IsGood env := fun s hs => ⟨new, h.set s hs⟩

def error? (env : Environment) (v : NumberVariable) : Option BadVariable :=
  match v.read env with
  | .ok _ => none
  | .error b => some b

theorem error?_eq_some_iff : v.error? env = some b ↔ v.IsBad env b := by
  rw [isBad_iff, error?]
  cases v.read env <;> simp

theorem error?_eq_none_iff : v.error? env = none ↔ v.IsGood env := by
  rw [isGood_iff, error?]
  cases v.read env <;> simp

theorem bind_eq_error_iff_findSome? (v : NumberVariable) {α : Type}
    {f : Option Nat → Except BadVariable α} {l : List NumberVariable}
    (h : ∀ r, f r = .error b ↔ l.findSome? (error? env) = some b) :
    v.read env >>= f = .error b ↔ (v :: l).findSome? (error? env) = some b := by
  rw [List.findSome?_cons, error?]
  rcases v.read env with b | r
  · simp [bind, Except.bind]
  · exact h r

theorem lt_bound_of_read {n : Nat} (h : v.read env = .ok (some n)) : n < v.bound := by
  have hv : v.Sets env 0 n := sets_iff.2 ⟨_, h, rfl⟩
  rcases v.cases_env env with hs | ⟨s, -, hs, -⟩ | ⟨s, hs, -⟩
  · cases (read_of_unset hs).symm.trans h
  · exact (hv.set s hs).lt_bound
  · exact (hv.set s hs).lt_bound

theorem sets_iff_of_uint32 (hv : v.bound = 4294967296) {old new : UInt32} :
    v.Sets env old.toNat new.toNat ↔
      ∃ r, v.read env = .ok r ∧ new = (r.map UInt32.ofNat).getD old := by
  rw [sets_iff]
  refine exists_congr fun r => and_congr_right fun hr => ?_
  rcases r with _ | n
  · exact UInt32.toNat_inj
  · have hn : n < UInt32.size := Nat.lt_of_lt_of_eq (lt_bound_of_read hr) hv
    rw [← UInt32.toNat_inj]
    simp [UInt32.toNat_ofNat_of_lt' hn]

theorem sets_iff_of_uint64 (hv : v.bound = 18446744073709551616) {old new : UInt64} :
    v.Sets env old.toNat new.toNat ↔
      ∃ r, v.read env = .ok r ∧ new = (r.map UInt64.ofNat).getD old := by
  rw [sets_iff]
  refine exists_congr fun r => and_congr_right fun hr => ?_
  rcases r with _ | n
  · exact UInt64.toNat_inj
  · have hn : n < UInt64.size := Nat.lt_of_lt_of_eq (lt_bound_of_read hr) hv
    rw [← UInt64.toNat_inj]
    simp [UInt64.toNat_ofNat_of_lt' hn]

end NumberVariable

/-! ## Laying the variables over settings -/

/-- The level of the log: of its own variable, else of the shared one, else as it was. -/
structure TakesLevel (env : Environment) (old new : String) : Prop where
  own : ∀ s, env "CK_LOG_LEVEL" = some s → new = s
  shared : env "CK_LOG_LEVEL" = none → ∀ s, env "RUST_LOG" = some s → new = s
  unset : env "CK_LOG_LEVEL" = none → env "RUST_LOG" = none → new = old

/-- Whether the log is written as JSON: if the variable says yes, and as it was if it is not set. -/
structure TakesFormat (env : Environment) (old new : Bool) : Prop where
  set : ∀ s, env "CK_JSON_LOGS" = some s → (new = true ↔ s = "1" ∨ s.toLower = "true")
  unset : env "CK_JSON_LOGS" = none → new = old

/-- What the variables make of settings: each changes its own field and no other. -/
structure Layered (base : Settings) (env : Environment) (s : Settings) : Prop where
  maxLoginFailure : NumberVariable.maxLoginFailure.Sets env
    base.session.maxLoginFailure.toNat s.session.maxLoginFailure.toNat
  banLengthSecs : NumberVariable.banLengthSecs.Sets env
    base.session.banLengthSecs.toNat s.session.banLengthSecs.toNat
  tokenTtlSecs : NumberVariable.tokenTtlSecs.Sets env
    base.session.tokenTtlSecs.toNat s.session.tokenTtlSecs.toNat
  capacity : NumberVariable.capacity.Sets env base.bus.capacity.toNat s.bus.capacity.toNat
  logLevel : TakesLevel env base.telemetry.logLevel s.telemetry.logLevel
  jsonLogs : TakesFormat env base.telemetry.jsonLogs s.telemetry.jsonLogs
  rest : s = { base with
    session := { base.session with
      maxLoginFailure := s.session.maxLoginFailure
      banLengthSecs := s.session.banLengthSecs
      tokenTtlSecs := s.session.tokenTtlSecs }
    bus := { base.bus with capacity := s.bus.capacity }
    telemetry := { base.telemetry with
      logLevel := s.telemetry.logLevel
      jsonLogs := s.telemetry.jsonLogs } }

variable {env : Environment} {base s : Settings} {b : BadVariable}

theorem takesLevel_iff {old new : String} :
    TakesLevel env old new ↔ new = ((env "CK_LOG_LEVEL").or (env "RUST_LOG")).getD old := by
  constructor
  · rintro ⟨hown, hshared, hunset⟩
    rcases hl : env "CK_LOG_LEVEL" with _ | l
    · rcases hr : env "RUST_LOG" with _ | r
      · exact hunset hl hr
      · exact hshared hl r hr
    · exact hown l hl
  · rintro rfl
    exact ⟨fun l hl => by simp [hl], fun hl r hr => by simp [hl, hr],
      fun hl hr => by simp [hl, hr]⟩

theorem isYes_iff {v : String} : Environment.isYes v = true ↔ v = "1" ∨ v.toLower = "true" := by
  have hl : v.toLower = "true" ↔ v.toList.map Char.toLower = "true".toList := by
    rw [← String.toList_inj, show v.toLower = v.map Char.toLower from rfl, String.toList_map]
  rw [Environment.isYes, Bool.or_eq_true, beq_iff_eq, beq_iff_eq, hl]

theorem takesFormat_iff {old new : Bool} :
    TakesFormat env old new ↔ new = ((env "CK_JSON_LOGS").map Environment.isYes).getD old := by
  rcases h : env "CK_JSON_LOGS" with _ | v
  · constructor
    · intro hf
      exact hf.unset h
    · intro hn
      exact ⟨by simp [h], fun _ => hn⟩
  · constructor
    · intro hf
      exact Bool.eq_iff_iff.2 ((hf.set v h).trans isYes_iff.symm)
    · rintro rfl
      refine ⟨fun v' h' => ?_, by simp [h]⟩
      cases h.symm.trans h'
      exact isYes_iff

namespace Settings

/-- **Laying the variables over settings** succeeds with what they make of them. -/
theorem overlay_eq_ok_iff : base.overlay env = .ok s ↔ Layered base env s := by
  simp only [overlay, bind_eq_ok_iff]
  constructor
  · rintro ⟨failures, hf, ban, hb, ttl, ht, capacity, hc, ⟨⟩⟩
    exact ⟨(NumberVariable.sets_iff_of_uint32 rfl).2 ⟨failures, hf, rfl⟩,
      (NumberVariable.sets_iff_of_uint64 rfl).2 ⟨ban, hb, rfl⟩,
      (NumberVariable.sets_iff_of_uint64 rfl).2 ⟨ttl, ht, rfl⟩,
      (NumberVariable.sets_iff_of_uint64 rfl).2 ⟨capacity, hc, rfl⟩,
      takesLevel_iff.2 rfl, takesFormat_iff.2 rfl, rfl⟩
  · intro h
    obtain ⟨failures, hf, ef⟩ := (NumberVariable.sets_iff_of_uint32 rfl).1 h.maxLoginFailure
    obtain ⟨ban, hb, eb⟩ := (NumberVariable.sets_iff_of_uint64 rfl).1 h.banLengthSecs
    obtain ⟨ttl, ht, et⟩ := (NumberVariable.sets_iff_of_uint64 rfl).1 h.tokenTtlSecs
    obtain ⟨capacity, hc, ec⟩ := (NumberVariable.sets_iff_of_uint64 rfl).1 h.capacity
    refine ⟨failures, hf, ban, hb, ttl, ht, capacity, hc, ?_⟩
    rw [← ef, ← eb, ← et, ← ec, ← takesLevel_iff.1 h.logLevel, ← takesFormat_iff.1 h.jsonLogs]
    exact congrArg Except.ok h.rest.symm

/-- It fails with the first variable that is bad. -/
theorem overlay_eq_error_iff :
    base.overlay env = .error b ↔ ∃ before v after, NumberVariable.all = before ++ v :: after ∧
      v.IsBad env b ∧ ∀ w ∈ before, w.IsGood env := by
  simp only [← NumberVariable.error?_eq_some_iff, ← NumberVariable.error?_eq_none_iff,
    ← List.findSome?_eq_some_iff]
  refine NumberVariable.bind_eq_error_iff_findSome? .maxLoginFailure fun failures => ?_
  refine NumberVariable.bind_eq_error_iff_findSome? .banLengthSecs fun ban => ?_
  refine NumberVariable.bind_eq_error_iff_findSome? .tokenTtlSecs fun ttl => ?_
  refine NumberVariable.bind_eq_error_iff_findSome? .capacity fun capacity => ?_
  exact ⟨nofun, nofun⟩

theorem isGood_of_layered (h : Layered base env s) : ∀ v ∈ NumberVariable.all, v.IsGood env := by
  simp only [NumberVariable.all, List.forall_mem_cons]
  exact ⟨h.maxLoginFailure.isGood, h.banLengthSecs.isGood, h.tokenTtlSecs.isGood,
    h.capacity.isGood, List.forall_mem_nil _⟩

/-- If no variable is bad, what they make of settings is there, and there is no other. -/
theorem exists_layered (base : Settings) (h : ∀ v ∈ NumberVariable.all, v.IsGood env) :
    ∃ s, ∀ t, Layered base env t ↔ t = s := by
  rcases ho : base.overlay env with b | s
  · obtain ⟨before, v, after, hall, hbad, -⟩ := overlay_eq_error_iff.1 ho
    have hgood := NumberVariable.error?_eq_none_iff.2 (h v (by simp [hall]))
    rw [NumberVariable.error?_eq_some_iff.2 hbad] at hgood
    cases hgood
  · refine ⟨s, fun t => ?_⟩
    rw [← overlay_eq_ok_iff, ho]
    exact ⟨fun he => (Except.ok.inj he).symm, fun he => he ▸ rfl⟩

end Settings

/-! ## Loading -/

section
variable (read : String → Except ReadError String) (decode : String → Option Settings)
  (env : Environment)

/-- What a file holds, for any way to read files and to decode their texts. -/
def fileOf (path : String) : Except LoadError Settings := do
  let text ← (read path).mapError (.unreadable path)
  match decode text with
  | none => .error (.unparsable path)
  | some s => .ok s

/-- The layer below the variables: the defaults, or what the named file spells. -/
inductive Base : Settings → Prop
  | defaults (h : env Environment.configPath = none) : Base {}
  | file {path text : String} {s : Settings} (hp : env Environment.configPath = some path)
      (ht : read path = .ok text) (hs : decode text = some s) : Base s

/-- What comes of loading settings.  They are loaded if the file can be read and spells some, every
    variable for a number spells one, and the settings are valid with the variables laid over.  Else
    the first error is found in this order: the file cannot be read, it spells no settings, a
    variable is bad (the first in their order), a fault of the whole. -/
structure Loading (r : Except LoadError Settings) : Prop where
  ok : ∀ s, r = .ok s ↔ ∃ base, Base read decode env base ∧
    (∀ v ∈ NumberVariable.all, v.IsGood env) ∧ Layered base env s ∧ s.Valid
  unreadable : ∀ path cause, r = .error (.unreadable path cause) ↔
    env Environment.configPath = some path ∧ read path = .error cause
  unparsable : ∀ path, r = .error (.unparsable path) ↔
    env Environment.configPath = some path ∧ ∃ text, read path = .ok text ∧ decode text = none
  badVariable : ∀ b, r = .error (.badVariable b) ↔ (∃ base, Base read decode env base) ∧
    ∃ before v after, NumberVariable.all = before ++ v :: after ∧
      v.IsBad env b ∧ ∀ w ∈ before, w.IsGood env
  invalid : ∀ f, r = .error (.invalid f) ↔ ∃ base s, Base read decode env base ∧
    Layered base env s ∧ s.fault? = some f

end

/-- The text in the file under a path. -/
def textOf (files : String → Except ReadError (List UInt8)) (path : String) :
    Except ReadError String :=
  if '\x00' ∈ path.toList then .error .badName
  else match files path with
    | .error cause => .error cause
    | .ok bytes =>
      match Text.ofUtf8? bytes with
      | none => .error .notText
      | some text => .ok text

/-- The settings that a text spells. -/
def settings? (text : String) : Option Settings :=
  (Toml.read? text).bind (Settings.ofNode? false)

/-- The layer below the variables, given what files hold, or why there is none. -/
def loadBase (file : String → Except LoadError Settings) (env : Environment) :
    Except LoadError Settings :=
  match env Environment.configPath with
  | some path => file path
  | none => .ok {}

variable {read : String → Except ReadError String} {decode : String → Option Settings}
  {files : String → Except ReadError (List UInt8)} {file : String → Except LoadError Settings}
  {path : String} {e : LoadError}

theorem fileOf_eq_ok_iff : fileOf read decode path = .ok s ↔
    ∃ text, read path = .ok text ∧ decode text = some s := by
  rw [fileOf, bind_eq_ok_iff]
  refine exists_congr fun text => and_congr mapError_eq_ok_iff ?_
  cases decode text <;> simp

theorem fileOf_eq_error_iff : fileOf read decode path = .error e ↔
    (∃ cause, read path = .error cause ∧ .unreadable path cause = e) ∨
      ∃ text, read path = .ok text ∧ decode text = none ∧ .unparsable path = e := by
  rw [fileOf, bind_eq_error_iff]
  refine or_congr mapError_eq_error_iff (exists_congr fun text => and_congr mapError_eq_ok_iff ?_)
  cases decode text <;> simp

theorem ofFile_eq_fileOf : Settings.ofFile files = fileOf (textOf files) settings? := by
  funext path
  rw [Settings.ofFile, fileOf, textOf]
  by_cases h : '\x00' ∈ path.toList
  · simp [h, bind, Except.bind, mapError_error]
  · rcases files path with cause | bytes
    · simp [h, bind, Except.bind, mapError_error]
    · simp only [h, bind, Except.bind, mapError_ok]
      rcases Text.ofUtf8? bytes with _ | text
      · simp [h, mapError_error]
      · rcases hs : settings? text with _ | s <;> rw [settings?] at hs <;>
          simp [h, mapError_ok, settings?, hs]

theorem loadBase_eq_ok_iff :
    loadBase (fileOf read decode) env = .ok s ↔ Base read decode env s := by
  rw [loadBase]
  constructor
  · intro h
    split at h
    · next path hp =>
      obtain ⟨text, ht, hs⟩ := fileOf_eq_ok_iff.1 h
      exact .file hp ht hs
    · next hp =>
      cases h
      exact .defaults hp
  · rintro (hp | ⟨hp, ht, hs⟩)
    · rw [hp]
    · rw [hp]
      exact fileOf_eq_ok_iff.2 ⟨_, ht, hs⟩

theorem loadBase_eq_error_iff : loadBase (fileOf read decode) env = .error e ↔
    ∃ path, env Environment.configPath = some path ∧
      ((∃ cause, read path = .error cause ∧ .unreadable path cause = e) ∨
        ∃ text, read path = .ok text ∧ decode text = none ∧ .unparsable path = e) := by
  simp only [loadBase, ← fileOf_eq_error_iff]
  cases env Environment.configPath <;> simp

namespace Settings

theorem check_eq_ok_iff {t : Settings} : s.check = .ok t ↔ s = t ∧ s.Valid := by
  rw [check, ← fault?_eq_none_iff]
  split <;> simp_all

theorem check_eq_error_iff {f : SettingsFault} : s.check = .error f ↔ s.fault? = some f := by
  rw [check]
  split <;> simp_all

theorem loadFrom_eq : loadFrom file env =
    (do
      let base ← loadBase file env
      let s ← (base.overlay env).mapError .badVariable
      s.check.mapError .invalid) := by
  rw [loadFrom, loadBase]
  cases env Environment.configPath <;> rfl

theorem loadFrom_eq_ok_iff : loadFrom file env = .ok s ↔
    ∃ base, loadBase file env = .ok base ∧ Layered base env s ∧ s.Valid := by
  simp only [loadFrom_eq, bind_eq_ok_iff, mapError_eq_ok_iff, overlay_eq_ok_iff, check_eq_ok_iff]
  constructor
  · rintro ⟨base, hb, _, hl, rfl, hv⟩
    exact ⟨base, hb, hl, hv⟩
  · rintro ⟨base, hb, hl, hv⟩
    exact ⟨base, hb, s, hl, rfl, hv⟩

theorem loadFrom_eq_error_iff : loadFrom file env = .error e ↔
    loadBase file env = .error e ∨ ∃ base, loadBase file env = .ok base ∧
      ((∃ b, base.overlay env = .error b ∧ .badVariable b = e) ∨
        ∃ s, Layered base env s ∧ ∃ f, s.fault? = some f ∧ .invalid f = e) := by
  simp only [loadFrom_eq, bind_eq_error_iff, mapError_eq_ok_iff, mapError_eq_error_iff,
    overlay_eq_ok_iff, check_eq_error_iff]

theorem loading_loadFrom : Loading read decode env (loadFrom (fileOf read decode) env) where
  ok s := by
    simp only [loadFrom_eq_ok_iff, loadBase_eq_ok_iff]
    refine exists_congr fun base => and_congr_right fun _ => ?_
    exact ⟨fun ⟨hl, hv⟩ => ⟨isGood_of_layered hl, hl, hv⟩, fun ⟨_, hl, hv⟩ => ⟨hl, hv⟩⟩
  unreadable path cause := by
    simp [loadFrom_eq_error_iff, loadBase_eq_error_iff]
  unparsable path := by
    simp only [loadFrom_eq_error_iff, loadBase_eq_error_iff, reduceCtorEq, and_false, exists_false,
      or_false, false_or, LoadError.unparsable.injEq]
    constructor
    · rintro ⟨_, hp, text, ht, hs, rfl⟩
      exact ⟨hp, text, ht, hs⟩
    · rintro ⟨hp, text, ht, hs⟩
      exact ⟨path, hp, text, ht, hs, rfl⟩
  badVariable b := by
    simp [loadFrom_eq_error_iff, loadBase_eq_error_iff, loadBase_eq_ok_iff, overlay_eq_error_iff]
  invalid f := by
    simp [loadFrom_eq_error_iff, loadBase_eq_error_iff, loadBase_eq_ok_iff]

/-- **Loading settings.**  If every variable for a number spells one, there is exactly one thing
    that the variables make of the layer below them, each counting for its own field alone.

    Whatever a file is read as, and whatever settings its text is taken to spell, loading comes to
    what `Loading` says of it.  In particular so does `Settings.load`, for which a file is text if
    its bytes are UTF-8, and spells settings if that text is TOML. -/
theorem layered_of_load (env : Environment) :
    (∀ base, (∀ v ∈ NumberVariable.all, v.IsGood env) → ∃ s, ∀ t, Layered base env t ↔ t = s) ∧
    (∀ read decode, Loading read decode env (loadFrom (fileOf read decode) env)) ∧
    ∀ files, Loading (textOf files) settings? env (load files env) := by
  refine ⟨exists_layered, fun read decode => loading_loadFrom, fun files => ?_⟩
  rw [load, ofFile_eq_fileOf]
  exact loading_loadFrom

/-- Variables that set a number, between blanks and with a plus sign, and the level of the log. -/
def paddedEnvironment : Environment := fun name =>
  [("CK_MAX_LOGIN_FAILURE", "\t+007 "), ("RUST_LOG", "debug"),
    ("CK_LOG_LEVEL", "warn")].lookup name

theorem spells_padded : Text.Spells 4294967296 "\t+007 " 7 :=
  ⟨['\t'], ['+'], ['0', '0', '7'], [' '], by simp, by simp; decide, .inr rfl,
    ⟨by simp, by simp, rfl, by decide⟩⟩

/-- The same word in every variable: it names a file, and it is no number. -/
def wordyEnvironment : Environment := fun _ => some "kernel.toml"

theorem isBad_wordy : NumberVariable.maxLoginFailure.IsBad wordyEnvironment
    ⟨"CK_MAX_LOGIN_FAILURE", "kernel.toml"⟩ where
  name := rfl
  set := rfl
  not_spells n hn := by
    have h : Text.numeral? 4294967296 (Text.trim "kernel.toml".toList) = none := by decide
    cases h.symm.trans (Text.numeral?_trim_eq_some_iff.2 hn)

theorem layered_of_load_padded :
    (∃ s, load (fun _ => .error .notFound) paddedEnvironment = .ok s ∧
      s.session.maxLoginFailure = 7 ∧ s.session.tokenTtlSecs = 3600 ∧
        s.telemetry.logLevel = "warn") ∧
    loadFrom (fileOf (fun _ => .ok "[session") fun _ => none) wordyEnvironment =
      .error (.unparsable "kernel.toml") ∧
    loadFrom (fileOf (fun _ => .ok "") fun _ => some {}) wordyEnvironment =
      .error (.badVariable ⟨"CK_MAX_LOGIN_FAILURE", "kernel.toml"⟩) := by
  have hgood : ∀ v ∈ NumberVariable.all, v.IsGood paddedEnvironment := by
    simp only [NumberVariable.all, List.forall_mem_cons]
    exact ⟨fun _ h => ⟨7, Option.some.inj h ▸ spells_padded⟩, nofun, nofun, nofun,
      List.forall_mem_nil _⟩
  obtain ⟨hex, -, hload⟩ := layered_of_load paddedEnvironment
  obtain ⟨s, hs⟩ := hex {} hgood
  have hl : Layered {} paddedEnvironment s := (hs s).2 rfl
  have hfail : s.session.maxLoginFailure = 7 :=
    UInt32.toNat_inj.1 ((hl.maxLoginFailure.set _ rfl).unique spells_padded)
  have httl : s.session.tokenTtlSecs = 3600 := UInt64.toNat_inj.1 (hl.tokenTtlSecs.unset rfl)
  have hcap : s.bus.capacity = 1000 := UInt64.toNat_inj.1 (hl.capacity.unset rfl)
  have hvalid : s.Valid := by
    refine ⟨?_, ?_, ?_, ?_, ?_⟩
    · rw [hfail]
      decide
    · rw [httl]
      decide
    · rw [hcap]
      decide
    · rw [hl.rest]
      exact isCookieName_default
    · rw [hl.rest]
      exact List.forall_mem_nil _
  have hok : load (fun _ => .error .notFound) paddedEnvironment = .ok s :=
    ((hload _).ok s).2 ⟨{}, .defaults rfl, hgood, hl, hvalid⟩
  obtain ⟨-, hfrom, -⟩ := layered_of_load wordyEnvironment
  refine ⟨⟨s, hok, hfail, httl, hl.logLevel.own _ rfl⟩, ?_, ?_⟩
  · exact ((hfrom _ _).unparsable "kernel.toml").2 ⟨rfl, "[session", rfl, rfl⟩
  · exact ((hfrom _ _).badVariable _).2
      ⟨⟨{}, .file rfl rfl rfl⟩, [], .maxLoginFailure, _, rfl, isBad_wordy, nofun⟩

end Settings

end PlatformCore
