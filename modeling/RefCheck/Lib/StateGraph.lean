import RefCheck.Lib.Issue

/-!
# State graphs run in supersteps

A `StateGraph` has nodes `N`, a state `S` and edges that may read the state. An edge leads to a node,
which then reads the state, or sends a payload `P` to a node, which then reads only the payload.
A superstep runs all scheduled tasks side by side on the same state, applies their writes in task order
and schedules what their edges lead to on the new state: a node at most once, however many tasks lead
to it, and every sent payload, in order. An exception in a node ends the run; of several it is the one
of the task that ends first.

`run` is the execution with a limit on the number of supersteps, `Step` and `Reaches` the same
execution as a relation between configurations (the scheduled tasks and the state).
-/

namespace RefCheck

/-- Where an edge leads: to a node, or to a node with a payload of its own. -/
inductive Target (N P : Type) where
  | node (n : N)
  | send (n : N) (payload : P)

namespace Target

variable {N P : Type}

/-- The node of a task. -/
def name : Target N P → N
  | node n => n
  | send n _ => n

variable [DecidableEq N]

/-- Whether a task is the plain task of the node `n`. -/
def isNode (n : N) : Target N P → Bool
  | node m => m = n
  | send _ _ => false

/-- The tasks to schedule: plain tasks once, sent ones all. -/
def schedule : List (Target N P) → List (Target N P)
  | [] => []
  | node n :: ts => node n :: (schedule ts).filter (fun t => !t.isNode n)
  | send n p :: ts => send n p :: schedule ts

@[simp] theorem schedule_nil : schedule ([] : List (Target N P)) = [] := rfl

@[simp] theorem schedule_node (n : N) : schedule [(node n : Target N P)] = [node n] := rfl

theorem schedule_replicate_node (n : N) (k : ℕ) :
    schedule (List.replicate (k + 1) (node n) : List (Target N P)) = [node n] := by
  induction k with
  | zero => simp
  | succ k ih =>
    rw [List.replicate_succ, schedule, ih]
    simp [isNode]

end Target

/-- A graph of nodes over a state. -/
structure StateGraph (N P S R ε : Type) where
  /-- The edges out of the start. -/
  start : S → Except ε (List (Target N P))
  /-- What a node writes after reading the state. -/
  body : N → S → Issue R ε (S → S)
  /-- What a node writes after reading a payload. -/
  sendBody : N → P → Issue R ε (S → S)
  /-- The edges out of a node; none lead to the end. -/
  edges : N → S → Except ε (List (Target N P))
  /-- Raised when the limit on supersteps is reached. -/
  limitError : ε
  /-- The order in which tasks that run side by side end. -/
  ending : List (Target N P) → List (Target N P)
  ending_perm : ∀ ts, (ending ts).Perm ts

namespace StateGraph

open Target

variable {N P S R ε : Type} [DecidableEq N]

/-- One task on the state of its superstep. -/
def runTask (g : StateGraph N P S R ε) (s : S) : Target N P → Issue R ε (S → S)
  | node n => g.body n s
  | send n p => g.sendBody n p

/-- One superstep: all tasks read `s`, their writes are applied in order. -/
def superstep (g : StateGraph N P S R ε) (ts : List (Target N P)) (s : S) :
    Issue R ε (List (Target N P) × S) := do
  let writes ← Issue.parallel (g.runTask s) (g.ending ts) ts
  let s' := writes.foldl (fun s w => w s) s
  let next ← Issue.lift (ts.mapM (fun t => g.edges t.name s'))
  return (schedule next.flatten, s')

/-- At most `limit` supersteps from the scheduled tasks. -/
def run (g : StateGraph N P S R ε) : ℕ → List (Target N P) → S → Issue R ε S
  | _, [], s => pure s
  | 0, _ :: _, _ => Issue.lift (.error g.limitError)
  | limit + 1, t :: ts, s => do
    let c ← g.superstep (t :: ts) s
    g.run limit c.1 c.2

/-- A run from the start. -/
def invoke (g : StateGraph N P S R ε) (limit : ℕ) (s : S) : Issue R ε S := do
  let ts ← Issue.lift (g.start s)
  g.run limit ts s

/-- A superstep that returns leads from one configuration to the next. -/
def Step (g : StateGraph N P S R ε) (c c' : List (Target N P) × S) : Prop :=
  c.1 ≠ [] ∧ (g.superstep c.1 c.2).result = .ok c'

/-- The configurations that a run from the state `s` comes to. -/
def Reaches (g : StateGraph N P S R ε) (s : S) (c : List (Target N P) × S) : Prop :=
  ∃ ts, g.start s = .ok ts ∧ Relation.ReflTransGen g.Step (ts, s) c

variable {g : StateGraph N P S R ε}

@[simp] theorem run_nil (limit : ℕ) (s : S) : g.run limit [] s = pure s := by
  cases limit <;> rfl

omit [DecidableEq N] in
theorem ending_singleton (t : Target N P) : g.ending [t] = [t] :=
  List.perm_singleton.mp (g.ending_perm [t])

theorem run_cons (limit : ℕ) (t : Target N P) (ts : List (Target N P)) (s : S) :
    g.run (limit + 1) (t :: ts) s = g.superstep (t :: ts) s >>= fun c => g.run limit c.1 c.2 := rfl

theorem superstep_node (n : N) (s : S) :
    g.superstep [node n] s = (do
      let w ← g.body n s
      let next ← Issue.lift (g.edges n (w s))
      return (schedule next, w s)) := by
  simp only [superstep, ending_singleton, Issue.parallel_singleton, List.mapM_cons, List.mapM_nil,
    runTask, name, pure_bind, bind_assoc, List.foldl_cons, List.foldl_nil]
  congr 1
  funext w
  cases g.edges n (w s) with
  | error e => rfl
  | ok next =>
    show (pure _ : Issue R ε _) = pure _
    simp

theorem superstep_node_to {n m : N} {s : S} (h : ∀ s', g.edges n s' = .ok [node m]) :
    g.superstep [node n] s = (do
      let w ← g.body n s
      return ([node m], w s)) := by
  simp only [superstep_node, h, Issue.lift_eq_pure, pure_bind, schedule_node]

theorem superstep_node_end {n : N} {s : S} (h : ∀ s', g.edges n s' = .ok []) :
    g.superstep [node n] s = (do
      let w ← g.body n s
      return ([], w s)) := by
  simp only [superstep_node, h, Issue.lift_eq_pure, pure_bind, schedule_nil]

theorem superstep_sends_to {n m : N} {ps : List P} (hps : ps ≠ []) {s : S}
    (h : ∀ s', g.edges n s' = .ok [node m]) {writes : List (S → S)}
    (hwrites : ps.mapM (fun p => (g.sendBody n p).result) = .ok writes) :
    g.superstep (ps.map (send n)) s =
      ⟨ps.flatMap fun p => (g.sendBody n p).log, .ok ([node m], writes.foldl (fun s w => w s) s)⟩ := by
  have hnext : ∀ s', (ps.map (send n)).mapM (fun t : Target N P => g.edges t.name s') =
      .ok (List.replicate ps.length [node m]) := by
    intro s'
    rw [Loop.mapM_eq_ok_iff, ← List.map_const', List.forall₂_map_left_iff,
      List.forall₂_map_right_iff, List.forall₂_same]
    exact fun p _ => h s'
  have htasks : schedule (List.replicate ps.length [node m]).flatten = [(node m : Target N P)] := by
    obtain ⟨k, hk⟩ := Nat.exists_eq_succ_of_ne_zero (fun hl => hps (List.length_eq_zero_iff.mp hl))
    have hflat : ∀ j, (List.replicate j [(node m : Target N P)]).flatten = List.replicate j (node m) :=
      fun j => by simp
    rw [hflat, hk]
    exact schedule_replicate_node m k
  have hrun : (ps.map (send n)).mapM (fun t => (g.runTask s t).result) = .ok writes := by
    rw [List.mapM_map]
    exact hwrites
  unfold superstep
  rw [Issue.parallel_of_ok (g.ending_perm _) hrun, Issue.bind_of_ok rfl]
  simp only [hnext, Issue.lift_eq_pure, pure_bind, htasks, Issue.log_pure, Issue.result_pure,
    List.append_nil, List.flatMap_map]
  rfl

theorem superstep_pair_to {n m k : N} {s : S} (hn : ∀ s', g.edges n s' = .ok [node k])
    (hm : ∀ s', g.edges m s' = .ok [node k]) {second : Bool}
    (hending : g.ending [node n, node m] = if second then [node m, node n] else [node n, node m]) :
    g.superstep [node n, node m] s =
      Issue.both second (g.body n s) (g.body m s) >>= fun w => pure ([node k], w.2 (w.1 s)) := by
  have hnext : ∀ s', [node n, node m].mapM (fun t : Target N P => g.edges t.name s') =
      .ok [[node k], [node k]] := by
    intro s'
    simp only [List.mapM_cons, List.mapM_nil, name, hn, hm]
    rfl
  have htasks : schedule [[node k], [node k]].flatten = [(node k : Target N P)] :=
    schedule_replicate_node k 1
  unfold superstep
  rw [hending, Issue.parallel_pair]
  simp only [hnext, Issue.lift_eq_pure, pure_bind, htasks, bind_assoc, runTask, List.foldl_cons,
    List.foldl_nil]

theorem reaches_iff_of_start {s : S} {ts : List (Target N P)} (h : g.start s = .ok ts)
    {c : List (Target N P) × S} :
    g.Reaches s c ↔ Relation.ReflTransGen g.Step (ts, s) c := by
  constructor
  · rintro ⟨ts', hts', hc⟩
    rw [h, Except.ok.injEq] at hts'
    rw [hts']
    exact hc
  · exact fun hc => ⟨ts, h, hc⟩

theorem Step.deterministic {c d d' : List (Target N P) × S} (h : g.Step c d) (h' : g.Step c d') :
    d = d' :=
  Except.ok.inj (h.2.symm.trans h'.2)

/-- A run comes to `c` itself and to what the step out of `c` comes to. -/
theorem reflTransGen_step_iff {c d e : List (Target N P) × S} (h : g.Step c d) :
    Relation.ReflTransGen g.Step c e ↔ e = c ∨ Relation.ReflTransGen g.Step d e := by
  constructor
  · intro hce
    rcases Relation.ReflTransGen.cases_head hce with rfl | ⟨d', hstep, hrest⟩
    · exact Or.inl rfl
    · rw [hstep.deterministic h] at hrest
      exact Or.inr hrest
  · rintro (rfl | hde)
    · exact Relation.ReflTransGen.refl
    · exact Relation.ReflTransGen.head h hde

theorem reflTransGen_of_error {c e : List (Target N P) × S} {x : ε}
    (h : (g.superstep c.1 c.2).result = .error x) (hce : Relation.ReflTransGen g.Step c e) :
    e = c := by
  rcases Relation.ReflTransGen.cases_head hce with rfl | ⟨d', hstep, -⟩
  · rfl
  · rw [hstep.2] at h
    cases h

theorem reflTransGen_superstep_iff {A : Type} {ts : List (Target N P)} {s : S}
    {e : List (Target N P) × S} {x : Issue R ε A} {d : A → List (Target N P) × S} (hts : ts ≠ [])
    (h : g.superstep ts s = x >>= fun a => pure (d a)) :
    Relation.ReflTransGen g.Step (ts, s) e ↔
      e = (ts, s) ∨ ∃ a, x.result = .ok a ∧ Relation.ReflTransGen g.Step (d a) e := by
  cases hx : x.result with
  | error err =>
    have hraise : (g.superstep ts s).result = .error err := by
      rw [h, Issue.bind_of_error hx]
    constructor
    · exact fun he => Or.inl (reflTransGen_of_error hraise he)
    · rintro (rfl | ⟨a, ha, -⟩)
      · exact Relation.ReflTransGen.refl
      · cases ha
  | ok a =>
    have hstep : g.Step (ts, s) (d a) := ⟨hts, by
      show (g.superstep ts s).result = _
      rw [h, Issue.bind_of_ok hx]
      rfl⟩
    rw [reflTransGen_step_iff hstep]
    refine or_congr_right ⟨fun he => ⟨a, rfl, he⟩, ?_⟩
    rintro ⟨a', ha', he⟩
    cases ha'
    exact he

/-- A run comes to a node that is not scheduled yet if its superstep leads there. -/
theorem exists_reaches_superstep_iff {A : Type} {ts : List (Target N P)} {s : S} {n : N}
    {x : Issue R ε A} {d : A → List (Target N P) × S} (hts : ts ≠ []) (hn : ts ≠ [node n])
    (h : g.superstep ts s = x >>= fun a => pure (d a)) :
    (∃ st, Relation.ReflTransGen g.Step (ts, s) ([node n], st)) ↔
      ∃ a, x.result = .ok a ∧ ∃ st, Relation.ReflTransGen g.Step (d a) ([node n], st) := by
  constructor
  · rintro ⟨st, hst⟩
    rcases (reflTransGen_superstep_iff hts h).mp hst with heq | ⟨a, ha, hrest⟩
    · exact absurd (Prod.ext_iff.mp heq).1.symm hn
    · exact ⟨a, ha, st, hrest⟩
  · rintro ⟨a, ha, st, hrest⟩
    exact ⟨st, (reflTransGen_superstep_iff hts h).mpr (Or.inr ⟨a, ha, hrest⟩)⟩

theorem exists_reaches_pure_iff {ts : List (Target N P)} {s : S} {n : N}
    {d : List (Target N P) × S} (hts : ts ≠ []) (hn : ts ≠ [node n])
    (h : g.superstep ts s = pure d) :
    (∃ st, Relation.ReflTransGen g.Step (ts, s) ([node n], st)) ↔
      ∃ st, Relation.ReflTransGen g.Step d ([node n], st) := by
  have h' : g.superstep ts s = pure () >>= fun _ => pure d := by rw [h, pure_bind]
  rw [exists_reaches_superstep_iff hts hn h']
  exact ⟨fun ⟨_, _, hst⟩ => hst, fun hst => ⟨(), rfl, hst⟩⟩

theorem reflTransGen_nil_iff {s : S} {e : List (Target N P) × S} :
    Relation.ReflTransGen g.Step ([], s) e ↔ e = ([], s) := by
  constructor
  · intro hce
    rcases Relation.ReflTransGen.cases_head hce with rfl | ⟨d, hstep, -⟩
    · rfl
    · exact absurd rfl hstep.1
  · rintro rfl
    exact Relation.ReflTransGen.refl

end StateGraph

end RefCheck
