import EndpointClient.Config.Load
import EndpointClient.Proofs.Text.Parts
import Mathlib.Data.List.Forall2

/-!
# EndpointClient.Proofs.Config.Decode

What a configuration is decoded to, and when it is not.

* `FieldType.Admits` says which values a field takes, and `knownKeys` which fields there are.
* `Reads` ties a reader to a type of fields and to what its values mean. `fails_get` and
  `gives_of_get` are what follows for one field, whatever its type.
* `EndpointConfig.fails_iff` and `isGiven_of_ok`, and those of the other records: decoding a record
  fails exactly if a known key is wrong, and else each field is as given or has its default.
* `ClientConfig.ofEntries_fails_iff`, `ClientConfig.isGiven_of_ofEntries`: so does a whole document.
-/

namespace EndpointClient

open Toml (Value)

/-! ## What a document may hold -/

inductive FieldType where
  | text
  | flag
  | integer
  | count
  | port
  | addresses

/-- The values of a type, within its range. -/
def FieldType.Admits : FieldType → Value → Prop
  | .text, v => ∃ s, v = .string s
  | .flag, v => ∃ b, v = .boolean b
  | .integer, v => ∃ n, v = .integer n
  | .count, v => ∃ n, v = .integer n ∧ 0 ≤ n
  | .port, v => ∃ n, v = .integer n ∧ 0 ≤ n ∧ n ≤ 65535
  | .addresses, v => ∃ items, v = .array items ∧
      ∀ item ∈ items, ∃ t a, item = .string t ∧ IpAddress.parse? t = some a

/-- A key that is looked at: its place among the fields of its record, its name and its type. -/
structure KnownKey where
  index : Nat
  name : String
  type : FieldType

def EndpointConfig.knownKeys : List KnownKey :=
  [⟨0, "name", .text⟩, ⟨1, "hostname", .text⟩, ⟨2, "port", .port⟩, ⟨3, "health_path", .text⟩,
    ⟨4, "scheme", .text⟩, ⟨5, "read_timeout_ms", .integer⟩, ⟨6, "check_interval_secs", .count⟩,
    ⟨7, "addresses", .addresses⟩]

def ConnectorConfig.knownKeys : List KnownKey := [⟨0, "pipe_buffer_bytes", .count⟩]

def ObservabilityConfig.knownKeys : List KnownKey :=
  [⟨0, "log_level", .text⟩, ⟨1, "metrics_enabled", .flag⟩, ⟨2, "metrics_address", .text⟩,
    ⟨3, "report_interval_secs", .count⟩]

/-- A known key is given, and holds a value that is not of its type or out of its range. -/
def Fields.HasWrong (fs : Fields) (known : List KnownKey) : Prop :=
  ∃ k ∈ known, ∃ v, fs k.index k.name = some v ∧ ¬ k.type.Admits v

/-- A value that is no record of the known keys: neither a table nor an array of fields, or one of
the fields is wrong. -/
inductive WrongRecord (known : List KnownKey) (v : Value) : Prop where
  | shape (h : fieldsOf? v = none)
  | field {fs : Fields} (h : fieldsOf? v = some fs) (hw : fs.HasWrong known)

/-- A known key of a document holds a wrong value, at its level. -/
inductive ClientConfig.WrongKey (doc : List (String × Value)) : Prop where
  | endpoints {v : Value} (h : Toml.find? "endpoints" doc = some v)
    (hv : ∀ items, v ≠ .array items)
  | endpoint {items : List Value} (h : Toml.find? "endpoints" doc = some (.array items))
    {item : Value} (hi : item ∈ items) (hw : WrongRecord EndpointConfig.knownKeys item)
  | connector {v : Value} (h : Toml.find? "connector" doc = some v)
    (hw : WrongRecord ConnectorConfig.knownKeys v)
  | observability {v : Value} (h : Toml.find? "observability" doc = some v)
    (hw : WrongRecord ObservabilityConfig.knownKeys v)

/-! ## What a document says -/

/-- A field is as it is given, or has its default. -/
def Fields.Gives {α : Type} (fs : Fields) (index : Nat) (key : String) (Means : Value → α → Prop)
    (default x : α) : Prop :=
  match fs index key with
  | none => x = default
  | some v => Means v x

def AreAddresses (v : Value) (as : List IpAddress) : Prop :=
  ∃ items, v = .array items ∧
    List.Forall₂ (fun item a => ∃ t, item = .string t ∧ IpAddress.parse? t = some a) items as

structure EndpointConfig.IsGiven (fs : Fields) (c : EndpointConfig) : Prop where
  name : fs.Gives 0 "name" (fun v s => v = .string s) "" c.name
  hostname : fs.Gives 1 "hostname" (fun v s => v = .string s) "" c.hostname
  port : fs.Gives 2 "port" (fun v p => v = .integer p.toNat) 443 c.port
  healthPath : fs.Gives 3 "health_path" (fun v s => v = .string s) "/health" c.healthPath
  scheme : fs.Gives 4 "scheme" (fun v s => v = .string s) "https" c.scheme
  readTimeoutMs : fs.Gives 5 "read_timeout_ms" (fun v n => v = .integer n) (-1) c.readTimeoutMs
  checkIntervalSecs :
    fs.Gives 6 "check_interval_secs" (fun v (n : Nat) => v = .integer n) 0 c.checkIntervalSecs
  addresses : fs.Gives 7 "addresses" AreAddresses [] c.addresses

structure ConnectorConfig.IsGiven (fs : Fields) (c : ConnectorConfig) : Prop where
  pipeBufferBytes :
    fs.Gives 0 "pipe_buffer_bytes" (fun v (n : Nat) => v = .integer n) 8192 c.pipeBufferBytes

structure ObservabilityConfig.IsGiven (fs : Fields) (c : ObservabilityConfig) : Prop where
  logLevel : fs.Gives 0 "log_level" (fun v s => v = .string s) "info" c.logLevel
  metricsEnabled : fs.Gives 1 "metrics_enabled" (fun v b => v = .boolean b) false c.metricsEnabled
  metricsAddress :
    fs.Gives 2 "metrics_address" (fun v s => v = .string s) "127.0.0.1:9090" c.metricsAddress
  reportIntervalSecs :
    fs.Gives 3 "report_interval_secs" (fun v (n : Nat) => v = .integer n) 10 c.reportIntervalSecs

/-- A value is a record that says this. -/
def IsRecordOf {α : Type} (IsGiven : Fields → α → Prop) (v : Value) (x : α) : Prop :=
  ∃ fs, fieldsOf? v = some fs ∧ IsGiven fs x

structure ClientConfig.IsGiven (fs : Fields) (c : ClientConfig) : Prop where
  endpoints : fs.Gives 0 "endpoints"
    (fun v es => ∃ items, v = .array items ∧
      List.Forall₂ (IsRecordOf EndpointConfig.IsGiven) items es) [] c.endpoints
  connector : fs.Gives 1 "connector" (IsRecordOf ConnectorConfig.IsGiven) ⟨8192⟩ c.connector
  observability : fs.Gives 2 "observability" (IsRecordOf ObservabilityConfig.IsGiven)
    ⟨"info", false, "127.0.0.1:9090", 10⟩ c.observability

/-! ## Failing -/

def Fails {ε α : Type} (x : Except ε α) : Prop := ∃ e, x = .error e

variable {ε α β : Type}

@[simp]
theorem fails_error (e : ε) : Fails (.error e : Except ε α) := ⟨e, rfl⟩

@[simp]
theorem not_fails_ok (x : α) : ¬ Fails (.ok x : Except ε α) := by
  rintro ⟨e, h⟩
  cases h

@[simp]
theorem not_fails_pure (x : α) : ¬ Fails (pure x : Except ε α) := not_fails_ok x

/-- Two steps fail if one of them does. The second one fails or not whatever comes of the first. -/
theorem fails_bind {P : Prop} {x : Except ε α} {f : α → Except ε β} (h : ∀ a, Fails (f a) ↔ P) :
    Fails (x >>= f) ↔ Fails x ∨ P := by
  cases x with
  | error e => exact ⟨fun _ => .inl ⟨e, rfl⟩, fun _ => ⟨e, rfl⟩⟩
  | ok a =>
    rw [or_iff_right (not_fails_ok a)]
    exact h a

theorem fails_mapM {f : α → Except ε β} {xs : List α} :
    Fails (xs.mapM f) ↔ ∃ x ∈ xs, Fails (f x) := by
  induction xs with
  | nil => simp
  | cons x xs ih =>
    have hrest : ∀ y, Fails (xs.mapM f >>= fun ys => pure (y :: ys)) ↔ ∃ z ∈ xs, Fails (f z) := by
      intro y
      rw [fails_bind (P := False) (by simp), ih, or_false]
    rw [List.mapM_cons, fails_bind hrest, List.exists_mem_cons_iff]

theorem forall₂_of_mapM {f : α → Except ε β} {xs : List α} {ys : List β}
    (h : xs.mapM f = .ok ys) : List.Forall₂ (fun x y => f x = .ok y) xs ys := by
  induction xs generalizing ys with
  | nil =>
    cases h
    exact .nil
  | cons x xs ih =>
    rw [List.mapM_cons] at h
    obtain ⟨y, hy, h⟩ := Text.eq_ok_of_bind h
    obtain ⟨ys', hys, h⟩ := Text.eq_ok_of_bind h
    cases h
    exact .cons hy (ih hys)

theorem ok_of_not_fails {x : Except ε α} (h : ¬ Fails x) : ∃ a, x = .ok a := by
  cases x with
  | error e => exact absurd ⟨e, rfl⟩ h
  | ok a => exact ⟨a, rfl⟩

/-! ## Readers of fields -/

/-- A reader reads what is of a type and in its range, and gives what that means. -/
structure Reads (read : Value → Option α) (type : FieldType) (Means : Value → α → Prop) : Prop where
  means : ∀ {v x}, read v = some x → Means v x
  none_iff : ∀ {v}, read v = none ↔ ¬ type.Admits v

theorem reads_text : Reads readText? .text (fun v s => v = .string s) where
  means {v s} h := by
    cases v <;> simp_all [readText?]
  none_iff {v} := by
    cases v <;> simp [readText?, FieldType.Admits]

theorem reads_flag : Reads readFlag? .flag (fun v b => v = .boolean b) where
  means {v b} h := by
    cases v <;> simp_all [readFlag?]
  none_iff {v} := by
    cases v <;> simp [readFlag?, FieldType.Admits]

theorem reads_integer : Reads readInteger? .integer (fun v n => v = .integer n) where
  means {v n} h := by
    cases v <;> simp_all [readInteger?]
  none_iff {v} := by
    cases v <;> simp [readInteger?, FieldType.Admits]

theorem reads_count : Reads readCount? .count (fun v n => v = .integer n) where
  means {v n} h := by
    cases v with
    | integer k =>
      simp only [readCount?, Option.ite_none_right_eq_some, Option.some.injEq] at h
      obtain ⟨hk, rfl⟩ := h
      rw [Int.toNat_of_nonneg hk]
    | _ => cases h
  none_iff {v} := by
    cases v <;> simp [readCount?, FieldType.Admits]

theorem reads_port : Reads readPort? .port (fun v p => v = .integer p.toNat) where
  means {v p} h := by
    obtain ⟨n, hn, h⟩ := Option.bind_eq_some_iff.1 h
    rw [Option.ite_none_right_eq_some] at h
    obtain ⟨hlt, h⟩ := h
    cases h
    rw [reads_count.means hn, Nat.toUInt16_eq, UInt16.toNat_ofNat_of_lt' hlt]
  none_iff {v} := by
    cases v with
    | integer k =>
      simp only [readPort?, readCount?, FieldType.Admits, Value.integer.injEq, exists_eq_left']
      by_cases hk : 0 ≤ k
      · simp only [hk, if_true, Option.bind_some, ite_eq_right_iff, reduceCtorEq, imp_false,
          true_and]
        omega
      · simp [hk]
    | _ => simp [readPort?, readCount?, FieldType.Admits]

theorem readAddress?_eq_some {v : Value} {a : IpAddress} : readAddress? v = some a ↔
    ∃ t, v = .string t ∧ IpAddress.parse? t = some a := by
  constructor
  · intro h
    obtain ⟨t, ht, ha⟩ := Option.bind_eq_some_iff.1 h
    exact ⟨t, reads_text.means ht, ha⟩
  · rintro ⟨t, rfl, ha⟩
    exact ha

theorem mapM_eq_none_iff {f : α → Option β} {xs : List α} :
    xs.mapM f = none ↔ ∃ x ∈ xs, f x = none := by
  induction xs with
  | nil => simp
  | cons x xs ih =>
    cases hx : f x with
    | none => simp [List.mapM_cons, hx]
    | some y =>
      cases hxs : xs.mapM f with
      | none => simp [List.mapM_cons, hx, hxs, ← ih]
      | some ys => simp [List.mapM_cons, hx, hxs, ← ih]

theorem reads_addresses : Reads (readList? readAddress?) .addresses AreAddresses where
  means {v as} h := by
    cases v with
    | array items =>
      refine ⟨items, rfl, ?_⟩
      have hmap := Text.map_eq_of_mapM_eq_some h
      clear h
      induction items generalizing as with
      | nil =>
        cases as with
        | nil => exact .nil
        | cons a as => cases hmap
      | cons item items ih =>
        cases as with
        | nil => cases hmap
        | cons a as =>
          rw [List.map_cons, List.map_cons, List.cons.injEq] at hmap
          exact .cons (readAddress?_eq_some.1 hmap.1) (ih hmap.2)
    | _ => cases h
  none_iff {v} := by
    cases v with
    | array items =>
      have hitem : ∀ item, readAddress? item = none ↔
          ¬ ∃ t a, item = .string t ∧ IpAddress.parse? t = some a := by
        intro item
        rw [Option.eq_none_iff_forall_ne_some]
        simp only [ne_eq, readAddress?_eq_some, not_exists]
        exact forall_comm
      simp only [readList?, mapM_eq_none_iff, hitem, FieldType.Admits, Value.array.injEq,
        exists_eq_left', not_forall, exists_prop]
    | _ => simp [readList?, FieldType.Admits]

/-! ## Fields and records -/

/-- What is given at a key is read, or there is the default. -/
def Fields.orDefault (fs : Fields) (index : Nat) (key : String) (read : Value → Except WrongValue α)
    (default : α) : Except WrongValue α :=
  match fs index key with
  | none => .ok default
  | some v => read v

def readField (read : Value → Option α) (key : String) (v : Value) : Except WrongValue α :=
  match read v with
  | some x => .ok x
  | none => .error ⟨key⟩

def readRecord (read : Fields → Except WrongValue α) (key : String) (v : Value) :
    Except WrongValue α :=
  match fieldsOf? v with
  | some fs => read fs
  | none => .error ⟨key⟩

def readRecords (read : Fields → Except WrongValue α) (key : String) :
    Value → Except WrongValue (List α)
  | .array items => items.mapM (readRecord read key)
  | _ => .error ⟨key⟩

variable {fs : Fields} {index : Nat} {key : String}

theorem get_eq (read : Value → Option α) (default : α) :
    fs.get index key read default = fs.orDefault index key (readField read key) default := rfl

theorem record_eq (read : Fields → Except WrongValue α) (default : α) :
    fs.record index key read default = fs.orDefault index key (readRecord read key) default := rfl

theorem records_eq (read : Fields → Except WrongValue α) :
    fs.records index key read = fs.orDefault index key (readRecords read key) [] := by
  unfold Fields.records Fields.orDefault
  cases fs index key with
  | none => rfl
  | some v => cases v <;> rfl

theorem fails_orDefault {read : Value → Except WrongValue α} {default : α} :
    Fails (fs.orDefault index key read default) ↔ ∃ v, fs index key = some v ∧ Fails (read v) := by
  unfold Fields.orDefault
  cases fs index key with
  | none => simp
  | some v => simp

theorem gives_of_orDefault {read : Value → Except WrongValue α} {Means : Value → α → Prop}
    {default x : α} (hr : ∀ {v}, read v = .ok x → Means v x)
    (h : fs.orDefault index key read default = .ok x) : fs.Gives index key Means default x := by
  unfold Fields.orDefault at h
  unfold Fields.Gives
  cases hv : fs index key with
  | none =>
    rw [hv] at h
    cases h
    rfl
  | some v =>
    rw [hv] at h
    exact hr h

variable {read : Value → Option α} {type : FieldType} {Means : Value → α → Prop}

theorem fails_get (hr : Reads read type Means) (default : α) :
    Fails (fs.get index key read default) ↔ ∃ v, fs index key = some v ∧ ¬ type.Admits v := by
  have hv : ∀ v, Fails (readField read key v) ↔ ¬ type.Admits v := by
    intro v
    rw [← hr.none_iff]
    unfold readField
    split <;> simp [*]
  simp only [get_eq, fails_orDefault, hv]

theorem gives_of_get (hr : Reads read type Means) {default x : α}
    (h : fs.get index key read default = .ok x) : fs.Gives index key Means default x := by
  refine gives_of_orDefault (fun hv => ?_) h
  split at hv
  · rename_i hx
    cases hv
    exact hr.means hx
  · cases hv

/-- Of the known keys of a record the first one is wrong, or a later one. -/
theorem fails_field {f : α → Except WrongValue β} {known : List KnownKey}
    (hr : Reads read type Means) (h : ∀ x, Fails (f x) ↔ fs.HasWrong known) {default : α} :
    Fails (fs.get index key read default >>= f) ↔ fs.HasWrong (⟨index, key, type⟩ :: known) := by
  rw [fails_bind h, fails_get hr]
  unfold Fields.HasWrong
  rw [List.exists_mem_cons_iff]

theorem fails_of_no_field {x : α} : Fails (pure x : Except WrongValue α) ↔ fs.HasWrong [] := by
  simp [Fields.HasWrong]

theorem EndpointConfig.fails_iff (fs : Fields) : Fails (ofFields fs) ↔ fs.HasWrong knownKeys :=
  fails_field reads_text fun _ => fails_field reads_text fun _ => fails_field reads_port fun _ =>
    fails_field reads_text fun _ => fails_field reads_text fun _ =>
      fails_field reads_integer fun _ => fails_field reads_count fun _ =>
        fails_field reads_addresses fun _ => fails_of_no_field

theorem ConnectorConfig.fails_iff (fs : Fields) : Fails (ofFields fs) ↔ fs.HasWrong knownKeys :=
  fails_field reads_count fun _ => fails_of_no_field

theorem ObservabilityConfig.fails_iff (fs : Fields) : Fails (ofFields fs) ↔ fs.HasWrong knownKeys :=
  fails_field reads_text fun _ => fails_field reads_flag fun _ => fails_field reads_text fun _ =>
    fails_field reads_count fun _ => fails_of_no_field

theorem EndpointConfig.isGiven_of_ok {c : EndpointConfig} (h : ofFields fs = .ok c) :
    c.IsGiven fs := by
  obtain ⟨name, hname, h⟩ := Text.eq_ok_of_bind h
  obtain ⟨hostname, hhostname, h⟩ := Text.eq_ok_of_bind h
  obtain ⟨port, hport, h⟩ := Text.eq_ok_of_bind h
  obtain ⟨path, hpath, h⟩ := Text.eq_ok_of_bind h
  obtain ⟨scheme, hscheme, h⟩ := Text.eq_ok_of_bind h
  obtain ⟨timeout, htimeout, h⟩ := Text.eq_ok_of_bind h
  obtain ⟨interval, hinterval, h⟩ := Text.eq_ok_of_bind h
  obtain ⟨addresses, haddresses, h⟩ := Text.eq_ok_of_bind h
  cases h
  exact ⟨gives_of_get reads_text hname, gives_of_get reads_text hhostname,
    gives_of_get reads_port hport, gives_of_get reads_text hpath, gives_of_get reads_text hscheme,
    gives_of_get reads_integer htimeout, gives_of_get reads_count hinterval,
    gives_of_get reads_addresses haddresses⟩

theorem ConnectorConfig.isGiven_of_ok {c : ConnectorConfig} (h : ofFields fs = .ok c) :
    c.IsGiven fs := by
  obtain ⟨bytes, hbytes, h⟩ := Text.eq_ok_of_bind h
  cases h
  exact ⟨gives_of_get reads_count hbytes⟩

theorem ObservabilityConfig.isGiven_of_ok {c : ObservabilityConfig} (h : ofFields fs = .ok c) :
    c.IsGiven fs := by
  obtain ⟨level, hlevel, h⟩ := Text.eq_ok_of_bind h
  obtain ⟨enabled, henabled, h⟩ := Text.eq_ok_of_bind h
  obtain ⟨address, haddress, h⟩ := Text.eq_ok_of_bind h
  obtain ⟨interval, hinterval, h⟩ := Text.eq_ok_of_bind h
  cases h
  exact ⟨gives_of_get reads_text hlevel, gives_of_get reads_flag henabled,
    gives_of_get reads_text haddress, gives_of_get reads_count hinterval⟩

/-! ## Documents -/

theorem fails_readRecord {known : List KnownKey} {read : Fields → Except WrongValue α}
    (hr : ∀ fs, Fails (read fs) ↔ fs.HasWrong known) (key : String) (v : Value) :
    Fails (readRecord read key v) ↔ WrongRecord known v := by
  unfold readRecord
  split
  · rename_i fs hfs
    rw [hr]
    constructor
    · intro h
      exact .field hfs h
    · rintro (h | ⟨h, hw⟩)
      · rw [hfs] at h
        cases h
      · rw [hfs] at h
        cases h
        exact hw
  · rename_i hnone
    exact iff_of_true (fails_error _) (.shape hnone)

theorem isRecordOf_of_readRecord {IsGiven : Fields → α → Prop} {read : Fields → Except WrongValue α}
    (hr : ∀ {fs x}, read fs = .ok x → IsGiven fs x) {v : Value} {x : α}
    (h : readRecord read key v = .ok x) : IsRecordOf IsGiven v x := by
  unfold readRecord at h
  split at h
  · rename_i fs hfs
    exact ⟨fs, hfs, hr h⟩
  · cases h

theorem fails_readRecords {read : Fields → Except WrongValue α} {v : Value} :
    Fails (readRecords read key v) ↔ (∀ items, v ≠ .array items) ∨
      ∃ items, v = .array items ∧ ∃ item ∈ items, Fails (readRecord read key item) := by
  unfold readRecords
  split
  · rw [fails_mapM]
    simp
  · rename_i hv
    exact iff_of_true (fails_error _) (.inl hv)

theorem areRecords_of_readRecords {IsGiven : Fields → α → Prop}
    {read : Fields → Except WrongValue α} (hr : ∀ {fs x}, read fs = .ok x → IsGiven fs x)
    {v : Value} {xs : List α} (h : readRecords read key v = .ok xs) :
    ∃ items, v = .array items ∧ List.Forall₂ (IsRecordOf IsGiven) items xs := by
  unfold readRecords at h
  split at h
  · exact ⟨_, rfl, (forall₂_of_mapM h).imp fun _ _ => isRecordOf_of_readRecord hr⟩
  · cases h

namespace ClientConfig

variable {doc : List (String × Value)}

theorem ofEntries_fails_iff (doc : List (String × Value)) :
    Fails (ofEntries doc) ↔ WrongKey doc := by
  unfold ofEntries ofFields
  rw [fails_bind fun _ => fails_bind fun _ => fails_bind (P := False) (by simp), records_eq,
    record_eq, record_eq, or_false]
  simp only [fails_orDefault, fails_readRecords, fails_readRecord EndpointConfig.fails_iff,
    fails_readRecord ConnectorConfig.fails_iff, fails_readRecord ObservabilityConfig.fails_iff]
  constructor
  · rintro (⟨v, hv, hshape | ⟨items, rfl, item, hi, hw⟩⟩ | ⟨v, hv, hw⟩ | ⟨v, hv, hw⟩)
    · exact .endpoints hv hshape
    · exact .endpoint hv hi hw
    · exact .connector hv hw
    · exact .observability hv hw
  · rintro (⟨hv, hshape⟩ | ⟨hv, hi, hw⟩ | ⟨hv, hw⟩ | ⟨hv, hw⟩)
    · exact .inl ⟨_, hv, .inl hshape⟩
    · exact .inl ⟨_, hv, .inr ⟨_, rfl, _, hi, hw⟩⟩
    · exact .inr (.inl ⟨_, hv, hw⟩)
    · exact .inr (.inr ⟨_, hv, hw⟩)

theorem isGiven_of_ofEntries {c : ClientConfig} (h : ofEntries doc = .ok c) :
    c.IsGiven fun _ key => Toml.find? key doc := by
  obtain ⟨endpoints, hendpoints, h⟩ := Text.eq_ok_of_bind h
  obtain ⟨connector, hconnector, h⟩ := Text.eq_ok_of_bind h
  obtain ⟨observability, hobservability, h⟩ := Text.eq_ok_of_bind h
  cases h
  rw [records_eq] at hendpoints
  rw [record_eq] at hconnector hobservability
  exact ⟨gives_of_orDefault (areRecords_of_readRecords EndpointConfig.isGiven_of_ok) hendpoints,
    gives_of_orDefault (isRecordOf_of_readRecord ConnectorConfig.isGiven_of_ok) hconnector,
    gives_of_orDefault (isRecordOf_of_readRecord ObservabilityConfig.isGiven_of_ok) hobservability⟩

/-- A text that is a document is refused for a wrong value exactly if its document is. -/
theorem parse_wrongValue_iff {text : String} (hdoc : Toml.parse text = .ok doc) (w : WrongValue) :
    parse text = .error (.wrongValue w) ↔ ofEntries doc = .error w := by
  unfold parse
  rw [hdoc]
  dsimp only
  split
  · rename_i e he
    rw [he]
    simp
  · rename_i c hc
    rw [hc]
    split <;> simp

end ClientConfig
end EndpointClient
