import EndpointClient.Config.Load

/-!
# EndpointClient.Proofs.Config.Validation

Which problems a configuration has, and in what order they are found.

* `ClientConfig.Sound` says what a configuration has to be like. `problems_eq_nil_iff`: it has no
  problems exactly if it is.
* `problemsFrom_eq`: the walk over the endpoints, with the names it has come by, finds at each what
  is to be said of it and of those before it.
* `count_problemsFrom`: how often a name is found to be used again.
* `problems_exact` puts these together, and with them what can be read at all.
-/

namespace EndpointClient

/-- What the types of a configuration do not say. -/
structure ClientConfig.Sound (c : ClientConfig) : Prop where
  hostnames : ∀ e ∈ c.endpoints, ∃ ch ∈ e.hostname.toList, Text.isBlank ch = false
  paths : ∀ e ∈ c.endpoints, e.healthPath = "" ∨ e.healthPath.toList.head? = some '/'
  names : (c.endpoints.map (·.name)).Nodup
  addresses : ∀ e ∈ c.endpoints, e.addresses ≠ []
  pipe : 0 < c.connector.pipeBufferBytes

namespace EndpointConfig

variable {names : List String} {es : List EndpointConfig} {e : EndpointConfig} {index : Nat}

theorem hasBlankHostname_iff (e : EndpointConfig) :
    e.hasBlankHostname = true ↔ ∀ ch ∈ e.hostname.toList, Text.isBlank ch = true := by
  simp [hasBlankHostname, Text.isBlankText]

theorem hasRelativePath_iff (e : EndpointConfig) :
    e.hasRelativePath = true ↔ e.healthPath ≠ "" ∧ e.healthPath.toList.head? ≠ some '/' := by
  have hempty : e.healthPath = "" ↔ e.healthPath.toList = [] := by simp
  rw [ne_eq, hempty]
  unfold hasRelativePath
  cases e.healthPath.toList with
  | nil => simp
  | cons ch rest => simp

/-- An endpoint that is fit in itself, and has a name of its own. -/
theorem problems_eq_nil_iff : e.problems names index = [] ↔
    (∃ ch ∈ e.hostname.toList, Text.isBlank ch = false) ∧
      (e.healthPath = "" ∨ e.healthPath.toList.head? = some '/') ∧ e.name ∉ names ∧
      e.addresses ≠ [] := by
  have hhost := e.hasBlankHostname_iff
  have hpath := e.hasRelativePath_iff
  simp only [problems, List.append_eq_nil_iff, ite_eq_right_iff, List.cons_ne_nil, imp_false,
    List.contains_iff_mem, List.isEmpty_iff, hhost, hpath]
  simp only [Classical.not_forall, Bool.not_eq_true, Classical.not_and_iff_not_or_not,
    Classical.not_not, exists_prop, and_assoc, ne_eq]

/-- The walk over endpoints finds nothing if all are fit, and no name comes twice. -/
theorem problemsFrom_eq_nil_iff : problemsFrom names index es = [] ↔
    (∀ e ∈ es, ∃ ch ∈ e.hostname.toList, Text.isBlank ch = false) ∧
      (∀ e ∈ es, e.healthPath = "" ∨ e.healthPath.toList.head? = some '/') ∧
      ((es.map (·.name)).Nodup ∧ ∀ e ∈ es, e.name ∉ names) ∧ ∀ e ∈ es, e.addresses ≠ [] := by
  induction es generalizing names index with
  | nil => simp [problemsFrom]
  | cons e es ih =>
    rw [problemsFrom, List.append_eq_nil_iff, problems_eq_nil_iff, ih]
    simp only [List.forall_mem_cons, List.map_cons, List.nodup_cons]
    simp only [List.mem_cons, not_or, List.mem_map, not_exists, not_and]
    constructor
    · rintro ⟨⟨hhost, hpath, hname, haddr⟩, hhosts, hpaths, ⟨hnodup, hnames⟩, haddrs⟩
      exact ⟨⟨hhost, hhosts⟩, ⟨hpath, hpaths⟩,
        ⟨⟨fun e' he' => (hnames e' he').1, hnodup⟩, hname, fun e' he' => (hnames e' he').2⟩,
        haddr, haddrs⟩
    · rintro ⟨⟨hhost, hhosts⟩, ⟨hpath, hpaths⟩, ⟨⟨hfresh, hnodup⟩, hname, hnames⟩, haddr, haddrs⟩
      exact ⟨⟨hhost, hpath, hname, haddr⟩, hhosts, hpaths,
        ⟨hnodup, fun e' he' => ⟨hfresh e' he', hnames e' he'⟩⟩, haddrs⟩

/-- What is to be said of the endpoint at an index, after other endpoints. -/
def problemsAfter (before : List EndpointConfig) (index : Nat) (e : EndpointConfig) :
    List ConfigProblem :=
  (if e.hostname.toList.all Text.isBlank then [.emptyHostname index] else []) ++
  (if e.healthPath ≠ "" ∧ e.healthPath.toList.head? ≠ some '/' then
    [.relativeHealthPath e.name e.healthPath] else []) ++
  (if ∃ e' ∈ before, e'.name = e.name then [.duplicateName e.name] else []) ++
  (if e.addresses = [] then [.noAddresses e.name] else [])

theorem problems_eq {before : List EndpointConfig} (h : ∀ n, n ∈ names ↔ ∃ e ∈ before, e.name = n) :
    e.problems names index = e.problemsAfter before index := by
  simp only [problems, problemsAfter, hasBlankHostname_iff, List.all_eq_true, hasRelativePath_iff,
    List.contains_iff_mem, List.isEmpty_iff, h]

/-- The names that the walk has come by are those of the endpoints before. -/
theorem problemsFrom_eq (names : List String) (before es : List EndpointConfig)
    (h : ∀ n, n ∈ names ↔ ∃ e ∈ before, e.name = n) :
    problemsFrom names before.length es = (es.zipIdx before.length).flatMap fun x =>
      x.1.problemsAfter ((before ++ es).take x.2) x.2 := by
  induction es generalizing names before with
  | nil => rfl
  | cons e es ih =>
    have hnames : ∀ n, n ∈ e.name :: names ↔ ∃ e' ∈ before ++ [e], e'.name = n := by
      intro n
      simp only [List.mem_cons, h, List.mem_append, List.not_mem_nil, or_false]
      constructor
      · rintro (rfl | ⟨e', he', rfl⟩)
        · exact ⟨e, .inr rfl, rfl⟩
        · exact ⟨e', .inl he', rfl⟩
      · rintro ⟨e', he' | rfl, rfl⟩
        · exact .inr ⟨e', he', rfl⟩
        · exact .inl rfl
    have hrest := ih _ _ hnames
    rw [List.length_append, List.length_singleton, List.append_assoc, List.singleton_append] at hrest
    rw [problemsFrom, List.zipIdx_cons, List.flatMap_cons, List.take_left, problems_eq h, hrest]

theorem count_found {p : Prop} [Decidable p] (found sought : ConfigProblem) :
    (if p then [found] else []).count sought = if p ∧ found = sought then 1 else 0 := by
  by_cases hp : p
  · simp [hp, List.count_singleton]
  · simp [hp]

/-- The first endpoint of a name is not told of, and all others are. -/
theorem count_problemsFrom (name : String) (names : List String) (index : Nat)
    (es : List EndpointConfig) : (problemsFrom names index es).count (.duplicateName name) =
      (es.map (·.name)).count name - if name ∈ names then 0 else 1 := by
  induction es generalizing names index with
  | nil => simp [problemsFrom]
  | cons e es ih =>
    have hhead : (e.problems names index).count (.duplicateName name) =
        if name ∈ names ∧ e.name = name then 1 else 0 := by
      simp only [problems, List.count_append, count_found, List.contains_iff_mem, reduceCtorEq,
        and_false, if_false, ConfigProblem.duplicateName.injEq, Nat.zero_add, Nat.add_zero]
      by_cases hname : e.name = name
      · subst hname
        rfl
      · simp [hname]
    rw [problemsFrom, List.count_append, hhead, ih, List.map_cons, List.count_cons]
    by_cases hname : e.name = name
    · subst hname
      by_cases hmem : e.name ∈ names
      · simp only [hmem, List.mem_cons, true_or, and_self, if_true, beq_self_eq_true]
        omega
      · simp [hmem]
    · have hne : name ≠ e.name := fun h => hname h.symm
      simp [hname, hne]

end EndpointConfig

namespace ClientConfig

theorem problems_eq_nil_iff (c : ClientConfig) : c.problems = [] ↔ c.Sound := by
  rw [problems, List.append_eq_nil_iff, EndpointConfig.problemsFrom_eq_nil_iff]
  simp only [List.not_mem_nil, not_false_iff, implies_true, and_true, ite_eq_right_iff,
    List.cons_ne_nil, imp_false]
  constructor
  · rintro ⟨⟨hhosts, hpaths, hnames, haddrs⟩, hpipe⟩
    exact ⟨hhosts, hpaths, hnames, haddrs, Nat.pos_of_ne_zero hpipe⟩
  · intro h
    exact ⟨⟨h.hostnames, h.paths, h.names, h.addresses⟩, Nat.ne_of_gt h.pipe⟩

theorem problems_of_parse {text : String} {c : ClientConfig} (h : parse text = .ok c) :
    c.problems = [] := by
  unfold parse at h
  split at h
  · cases h
  · split at h
    · cases h
    · split at h
      · rename_i hnone
        cases h
        exact hnone
      · cases h

/-- **Every problem is reported, once, in order, and nothing else.** A configuration has no problems
exactly if every hostname has a character that is no blank, every health path is empty or starts with
a slash, the names of the endpoints differ, every endpoint has an address, and the pipe has room.
Otherwise its problems are those of its endpoints one after another, and last that of the pipe. Each
is there exactly if there is cause for it; a name is told of once for each endpoint that has it after
the first. What is read from a text has no problems. -/
theorem problems_exact (c : ClientConfig) :
    (c.problems = [] ↔ c.Sound) ∧
    c.problems = (c.endpoints.zipIdx.flatMap fun x =>
        x.1.problemsAfter (c.endpoints.take x.2) x.2) ++
      (if c.connector.pipeBufferBytes = 0 then [.zeroPipeBuffer] else []) ∧
    (∀ name, c.problems.count (.duplicateName name) =
      (c.endpoints.map (·.name)).count name - 1) ∧
    ∀ text, parse text = .ok c → c.Sound := by
  refine ⟨c.problems_eq_nil_iff, ?_, fun name => ?_, fun text h => ?_⟩
  · have hwalk := EndpointConfig.problemsFrom_eq [] [] c.endpoints (by simp)
    rw [problems]
    exact congrArg (· ++ _) hwalk
  · rw [problems, List.count_append, EndpointConfig.count_problemsFrom, EndpointConfig.count_found]
    simp
  · exact c.problems_eq_nil_iff.1 (problems_of_parse h)

/-- A name used three times is told of twice, between the problems of its endpoints. -/
example : problems ⟨[⟨"a", " ", 443, "health", "https", -1, 0, []⟩,
      ⟨"a", "h", 443, "", "https", -1, 0, [.v4 10 0 0 5]⟩, ⟨"a", "h", 443, "/", "https", -1, 0, []⟩],
      ⟨0⟩, {}⟩ =
    [.emptyHostname 0, .relativeHealthPath "a" "health", .noAddresses "a", .duplicateName "a",
      .duplicateName "a", .noAddresses "a", .zeroPipeBuffer] := by decide

end ClientConfig

end EndpointClient
