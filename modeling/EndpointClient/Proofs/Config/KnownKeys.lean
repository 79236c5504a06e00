import EndpointClient.Proofs.Config.Decode
import Mathlib.Data.List.Find
import Mathlib.Data.List.Nodup
import Mathlib.Logic.Relation

/-!
# EndpointClient.Proofs.Config.KnownKeys

Decoding looks at the known keys of a document only, and not at the order of keys.

* An `Edit` of a value leaves its known keys as they are: it changes an unknown key or the order of
  the keys of a table, at any depth. What is known depends on the `Place` of the value.
* `Place.alike_table` and `Place.alike_array`: what stands at a place is read alike if what it is
  made of is.
* `Edit.alike`: so an edited value is read as the value was.
* `ClientConfig.decodes_known_keys` is what decoding does with any document.
-/

namespace EndpointClient

open Toml (Value find?)

/-! ## Edits -/

inductive Place where
  | document
  | endpoints
  | endpoint
  | connector
  | observability
  | field

namespace Place

/-- The keys of a table that are looked at. -/
def known : Place → List String
  | .document => ["endpoints", "connector", "observability"]
  | .endpoint => EndpointConfig.knownKeys.map (·.name)
  | .connector => ConnectorConfig.knownKeys.map (·.name)
  | .observability => ObservabilityConfig.knownKeys.map (·.name)
  | .endpoints | .field => []

def under : Place → String → Place
  | .document, "endpoints" => .endpoints
  | .document, "connector" => .connector
  | .document, "observability" => .observability
  | _, _ => .field

def item : Place → Place
  | .endpoints => .endpoint
  | _ => .field

end Place

/-- One table of a value is changed, but for its known keys. An unknown key that is taken out is
one that was put in, the other way around. -/
inductive Edit : Place → Value → Value → Prop where
  | reordered {p : Place} {es es' : List (String × Value)} (hd : (es.map (·.1)).Nodup)
    (hp : es.Perm es') : Edit p (.table es) (.table es')
  | changed {p : Place} {front back : List (String × Value)} {key : String} {v w : Value}
    (hk : key ∉ p.known) :
    Edit p (.table (front ++ (key, v) :: back)) (.table (front ++ (key, w) :: back))
  | added {p : Place} {front back : List (String × Value)} {key : String} {v : Value}
    (hk : key ∉ p.known) : Edit p (.table (front ++ back)) (.table (front ++ (key, v) :: back))
  | entry {p : Place} {front back : List (String × Value)} {key : String} {v w : Value}
    (h : Edit (p.under key) v w) :
    Edit p (.table (front ++ (key, v) :: back)) (.table (front ++ (key, w) :: back))
  | item {p : Place} {before after : List Value} {v w : Value} (h : Edit p.item v w) :
    Edit p (.array (before ++ v :: after)) (.array (before ++ w :: after))

/-- Any number of edits of a document, there and back. -/
def ClientConfig.SameKnown : List (String × Value) → List (String × Value) → Prop :=
  Relation.EqvGen fun doc doc' => Edit .document (.table doc) (.table doc')

/-! ## Keys of a table -/

section Lookup

variable {es es' front back : List (String × Value)} {k key : String} {v : Value}

theorem find?_of_perm (hd : (es.map (·.1)).Nodup) (hp : es.Perm es') (key : String) :
    find? key es = find? key es' := by
  unfold find?
  rw [List.find?_eq_find?_of_perm hp]
  rintro e ⟨he, hek⟩ e' ⟨he', hek'⟩
  rw [beq_iff_eq] at hek hek'
  exact List.inj_on_of_nodup_map hd he he' (hek.trans hek'.symm)

theorem find?_append : find? key (front ++ back) = (find? key front).or (find? key back) := by
  unfold find?
  rw [List.find?_append, Option.map_or]

theorem find?_splice_of_ne (h : k ≠ key) :
    find? key (front ++ (k, v) :: back) = find? key (front ++ back) := by
  have hcons : find? key ((k, v) :: back) = find? key back := by
    unfold find?
    rw [List.find?_cons_of_neg (by simpa using h)]
  rw [find?_append, find?_append, hcons]

theorem find?_splice : find? key (front ++ (key, v) :: back) = (find? key front).or (some v) := by
  have hcons : find? key ((key, v) :: back) = some v := by
    unfold find?
    rw [List.find?_cons_of_pos (by simp)]
    rfl
  rw [find?_append, hcons]

end Lookup

/-! ## What is read alike -/

/-- No reader of fields tells two values apart. -/
structure ReadsAlike (v w : Value) : Prop where
  text : readText? v = readText? w
  flag : readFlag? v = readFlag? w
  integer : readInteger? v = readInteger? w
  count : readCount? v = readCount? w
  port : readPort? v = readPort? w
  addresses : readList? readAddress? v = readList? readAddress? w

theorem ReadsAlike.refl (v : Value) : ReadsAlike v v := ⟨rfl, rfl, rfl, rfl, rfl, rfl⟩

theorem rel_refl {r : Value → Value → Prop} (hr : ∀ v, r v v) (o : Option Value) :
    Option.Rel r o o := by
  cases o with
  | none => exact .none
  | some v => exact .some (hr v)

variable {α β : Type} {fs fs' : Fields}

/-- Two records have the same known fields. -/
def AgreeOn (known : List KnownKey) (fs fs' : Fields) : Prop :=
  ∀ k ∈ known, Option.Rel ReadsAlike (fs k.index k.name) (fs' k.index k.name)

theorem orDefault_congr {index : Nat} {key : String} {read : Value → Except WrongValue α}
    (h : Option.Rel (fun v w => read v = read w) (fs index key) (fs' index key)) (default : α) :
    fs.orDefault index key read default = fs'.orDefault index key read default := by
  unfold Fields.orDefault
  generalize fs index key = o, fs' index key = o' at h
  cases h with
  | none => rfl
  | some hvw => exact hvw

theorem get_congr {index : Nat} {key : String} {read : Value → Option α}
    (hr : ∀ {v w}, ReadsAlike v w → read v = read w)
    (h : Option.Rel ReadsAlike (fs index key) (fs' index key)) (default : α) :
    fs.get index key read default = fs'.get index key read default := by
  rw [get_eq, get_eq]
  refine orDefault_congr ?_ default
  generalize fs index key = o, fs' index key = o' at h
  cases h with
  | none => exact .none
  | some hvw =>
    refine .some ?_
    unfold readField
    rw [hr hvw]

theorem field_congr {known : List KnownKey} {k : KnownKey} {read : Value → Option α}
    {f f' : α → Except WrongValue β} {default : α}
    (hr : ∀ {v w}, ReadsAlike v w → read v = read w) (hf : AgreeOn known fs fs' → f = f')
    (h : AgreeOn (k :: known) fs fs') :
    (fs.get k.index k.name read default >>= f) = (fs'.get k.index k.name read default >>= f') := by
  obtain ⟨hk, hknown⟩ := List.forall_mem_cons.1 h
  rw [get_congr hr hk, hf hknown]

theorem EndpointConfig.ofFields_congr (h : AgreeOn knownKeys fs fs') :
    ofFields fs = ofFields fs' := by
  refine field_congr ReadsAlike.text (fun h => funext fun name => ?_) h
  refine field_congr ReadsAlike.text (fun h => funext fun hostname => ?_) h
  refine field_congr ReadsAlike.port (fun h => funext fun port => ?_) h
  refine field_congr ReadsAlike.text (fun h => funext fun path => ?_) h
  refine field_congr ReadsAlike.text (fun h => funext fun scheme => ?_) h
  refine field_congr ReadsAlike.integer (fun h => funext fun timeout => ?_) h
  refine field_congr ReadsAlike.count (fun h => funext fun interval => ?_) h
  exact field_congr ReadsAlike.addresses (fun _ => rfl) h

theorem ConnectorConfig.ofFields_congr (h : AgreeOn knownKeys fs fs') :
    ofFields fs = ofFields fs' :=
  field_congr ReadsAlike.count (fun _ => rfl) h

theorem ObservabilityConfig.ofFields_congr (h : AgreeOn knownKeys fs fs') :
    ofFields fs = ofFields fs' := by
  refine field_congr ReadsAlike.text (fun h => funext fun level => ?_) h
  refine field_congr ReadsAlike.flag (fun h => funext fun enabled => ?_) h
  refine field_congr ReadsAlike.text (fun h => funext fun address => ?_) h
  exact field_congr ReadsAlike.count (fun _ => rfl) h

/-- What is decoded at a place is the same for two values. -/
def Place.Alike : Place → Value → Value → Prop
  | .document, v, w => ∀ es es', v = .table es → w = .table es' →
      ClientConfig.ofEntries es = ClientConfig.ofEntries es'
  | .endpoints, v, w => readRecords EndpointConfig.ofFields "endpoints" v =
      readRecords EndpointConfig.ofFields "endpoints" w
  | .endpoint, v, w => readRecord EndpointConfig.ofFields "endpoints" v =
      readRecord EndpointConfig.ofFields "endpoints" w
  | .connector, v, w => readRecord ConnectorConfig.ofFields "connector" v =
      readRecord ConnectorConfig.ofFields "connector" w
  | .observability, v, w => readRecord ObservabilityConfig.ofFields "observability" v =
      readRecord ObservabilityConfig.ofFields "observability" w
  | .field, v, w => ReadsAlike v w

theorem ClientConfig.ofFields_congr
    (hendpoints : Option.Rel Place.endpoints.Alike (fs 0 "endpoints") (fs' 0 "endpoints"))
    (hconnector : Option.Rel Place.connector.Alike (fs 1 "connector") (fs' 1 "connector"))
    (hobservability :
      Option.Rel Place.observability.Alike (fs 2 "observability") (fs' 2 "observability")) :
    ofFields fs = ofFields fs' := by
  unfold ofFields
  rw [records_eq, records_eq, orDefault_congr hendpoints, record_eq, record_eq,
    orDefault_congr hconnector, record_eq, record_eq, orDefault_congr hobservability]

namespace Place

variable {p : Place} {es es' front back : List (String × Value)} {before after : List Value}
  {key : String} {v w : Value}

theorem Alike.refl (p : Place) (v : Value) : p.Alike v v := by
  cases p with
  | document =>
    intro es es' hes hes'
    rw [hes] at hes'
    cases hes'
    rfl
  | field => exact ReadsAlike.refl v
  | _ => rfl

/-- The known keys of two tables hold values that are read alike. -/
def EntriesAlike (p : Place) (es es' : List (String × Value)) : Prop :=
  ∀ key ∈ p.known, Option.Rel (p.under key).Alike (find? key es) (find? key es')

theorem rel_of_eq {o o' : Option Value} (h : o = o') : Option.Rel p.Alike o o' :=
  h ▸ rel_refl (Alike.refl p) o

theorem entriesAlike_of_perm (hd : (es.map (·.1)).Nodup) (hp : es.Perm es') :
    p.EntriesAlike es es' :=
  fun key _ => rel_of_eq (find?_of_perm hd hp key)

theorem entriesAlike_changed (hk : key ∉ p.known) :
    p.EntriesAlike (front ++ (key, v) :: back) (front ++ (key, w) :: back) := by
  intro k hknown
  have hne : key ≠ k := fun h => hk (h ▸ hknown)
  exact rel_of_eq (by rw [find?_splice_of_ne hne, find?_splice_of_ne hne])

theorem entriesAlike_added (hk : key ∉ p.known) :
    p.EntriesAlike (front ++ back) (front ++ (key, v) :: back) := by
  intro k hknown
  have hne : key ≠ k := fun h => hk (h ▸ hknown)
  exact rel_of_eq (find?_splice_of_ne hne).symm

theorem entriesAlike_entry (h : (p.under key).Alike v w) :
    p.EntriesAlike (front ++ (key, v) :: back) (front ++ (key, w) :: back) := by
  intro k _
  by_cases hk : key = k
  · subst hk
    rw [find?_splice, find?_splice]
    cases find? key front with
    | none => exact .some h
    | some u => exact .some (Alike.refl _ u)
  · exact rel_of_eq (by rw [find?_splice_of_ne hk, find?_splice_of_ne hk])

/-- The fields of a record hold no records themselves. -/
theorem agreeOn_table {known : List KnownKey} (hp : p.known = known.map (·.name))
    (hfield : ∀ key, p.under key = .field) (h : p.EntriesAlike es es') :
    AgreeOn known (fun _ key => find? key es) (fun _ key => find? key es') := by
  intro k hk
  have hrel := h k.name (hp ▸ List.mem_map_of_mem hk)
  rwa [hfield] at hrel

theorem agreeOn_array {known : List KnownKey} (h : ReadsAlike v w) :
    AgreeOn known (fun index _ => (before ++ v :: after)[index]?)
      (fun index _ => (before ++ w :: after)[index]?) := by
  intro k _
  dsimp only
  rw [List.getElem?_append, List.getElem?_append]
  split
  · exact rel_refl ReadsAlike.refl _
  · cases k.index - before.length with
    | zero => exact .some h
    | succ n => exact rel_refl ReadsAlike.refl _

theorem mapM_congr {m : Type → Type} [Monad m] [LawfulMonad m] {f : Value → m α} (h : f v = f w) :
    (before ++ v :: after).mapM f = (before ++ w :: after).mapM f := by
  rw [List.mapM_append, List.mapM_append, List.mapM_cons, List.mapM_cons, h]

theorem alike_table (h : p.EntriesAlike es es') : p.Alike (.table es) (.table es') := by
  cases p with
  | document =>
    intro _ _ hes hes'
    cases hes
    cases hes'
    exact ClientConfig.ofFields_congr (h "endpoints" (by decide)) (h "connector" (by decide))
      (h "observability" (by decide))
  | endpoints => rfl
  | endpoint => exact EndpointConfig.ofFields_congr (agreeOn_table rfl (fun _ => rfl) h)
  | connector => exact ConnectorConfig.ofFields_congr (agreeOn_table rfl (fun _ => rfl) h)
  | observability => exact ObservabilityConfig.ofFields_congr (agreeOn_table rfl (fun _ => rfl) h)
  | field => exact ⟨rfl, rfl, rfl, rfl, rfl, rfl⟩

theorem alike_array (h : p.item.Alike v w) :
    p.Alike (.array (before ++ v :: after)) (.array (before ++ w :: after)) := by
  cases p with
  | document =>
    intro es es' hes
    cases hes
  | endpoints => exact mapM_congr h
  | endpoint => exact EndpointConfig.ofFields_congr (agreeOn_array h)
  | connector => exact ConnectorConfig.ofFields_congr (agreeOn_array h)
  | observability => exact ObservabilityConfig.ofFields_congr (agreeOn_array h)
  | field =>
    have hitem : readAddress? v = readAddress? w := by
      unfold readAddress?
      rw [h.text]
    exact ⟨rfl, rfl, rfl, rfl, rfl, mapM_congr hitem⟩

end Place

theorem Edit.alike {p : Place} {v w : Value} (h : Edit p v w) : p.Alike v w := by
  induction h with
  | reordered hd hp => exact Place.alike_table (Place.entriesAlike_of_perm hd hp)
  | changed hk => exact Place.alike_table (Place.entriesAlike_changed hk)
  | added hk => exact Place.alike_table (Place.entriesAlike_added hk)
  | entry _ ih => exact Place.alike_table (Place.entriesAlike_entry ih)
  | item _ ih => exact Place.alike_array ih

namespace ClientConfig

variable {doc doc' : List (String × Value)}

theorem ofEntries_of_sameKnown (h : SameKnown doc doc') : ofEntries doc' = ofEntries doc := by
  induction h with
  | rel doc doc' h => exact (h.alike doc doc' rfl rfl).symm
  | refl doc => rfl
  | symm doc doc' _ ih => exact ih.symm
  | trans doc doc' doc'' _ _ ih ih' => exact ih'.trans ih

theorem parse_of_sameKnown {text text' : String} (hdoc : Toml.parse text = .ok doc)
    (hdoc' : Toml.parse text' = .ok doc') (h : SameKnown doc doc') : parse text' = parse text := by
  unfold parse
  rw [hdoc, hdoc']
  dsimp only
  rw [ofEntries_of_sameKnown h]

/-- **Decoding looks at the known keys only.** It fails exactly if a known key holds a wrong value,
at its level; else each known field, of each record, is as it is given or has its default. Whatever
else the document holds, and in whatever order, makes no difference. A text whose document is
refused is refused for that reason. -/
theorem decodes_known_keys (doc : List (String × Value)) :
    ((∃ w, ofEntries doc = .error w) ↔ WrongKey doc) ∧
    (¬ WrongKey doc → ∃ c, ofEntries doc = .ok c ∧ c.IsGiven fun _ key => find? key doc) ∧
    (∀ doc', SameKnown doc doc' → ofEntries doc' = ofEntries doc) ∧
    ∀ text, Toml.parse text = .ok doc →
      ((∃ w, parse text = .error (.wrongValue w)) ↔ WrongKey doc) ∧
      ∀ text' doc', Toml.parse text' = .ok doc' → SameKnown doc doc' →
        parse text' = parse text := by
  have hfails := ofEntries_fails_iff doc
  refine ⟨hfails, ?_, fun doc' h => ofEntries_of_sameKnown h, ?_⟩
  · intro hwrong
    obtain ⟨c, hc⟩ := ok_of_not_fails (mt hfails.1 hwrong)
    exact ⟨c, hc, isGiven_of_ofEntries hc⟩
  · intro text hdoc
    refine ⟨?_, fun text' doc' hdoc' h => parse_of_sameKnown hdoc hdoc' h⟩
    rw [← hfails]
    exact exists_congr (parse_wrongValue_iff hdoc)

example : ofEntries [("proxy", .float "1.5"), ("connector", .array [.integer 1])] =
    .ok { connector := ⟨1⟩ } := rfl

end ClientConfig
end EndpointClient
