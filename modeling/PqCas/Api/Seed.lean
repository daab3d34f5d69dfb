import PqCas.Cavp.Sessions
import PqCas.Lib.Keyed

/-!
Idempotent seeding of the catalog, the lab endpoints and the question packs (`seed.rs`).
-/

namespace PqCas

namespace seed

structure AlgorithmSeed where
  kind : String
  name : String
  displayName : String
  family : Option String
  enabled : Bool
  sortOrder : Int

structure EndpointSeed where
  slug : String
  label : String
  labelZh : String
  host : String
  port : Int
  notes : Option String
  enabled : Bool

structure Files where
  algorithms : Except Err (List AlgorithmSeed)
  endpoints : Except Err (List EndpointSeed)
  packs : Except Err (List cavp.PackSeed)

structure Ids where
  algorithms : Keyed.Source Int
  endpoints : Keyed.Source Uuid
  packs : Keyed.Source Uuid

def AlgorithmSeed.key (a : AlgorithmSeed) : String × String :=
  (a.kind, a.name)

structure Tables (ids : Ids) where
  algorithms : Keyed.Rows ids.algorithms AlgorithmSeed.key
  endpoints : Keyed.Rows ids.endpoints EndpointSeed.slug
  packs : Keyed.Rows ids.packs cavp.Pack.slug

variable {ids : Ids}

/--
Statements that are carried out one by one, with no transaction around them.
-/
abbrev SeedM (ids : Ids) (α : Type) := ExceptT Err (StateM (Tables ids)) α

def SeedM.eval {α : Type} (m : SeedM ids α) (db : Tables ids) : Except Err α × Tables ids :=
  m.run.run db

theorem SeedM.eval_bind {α β : Type} (m : SeedM ids α) (f : α → SeedM ids β) (db : Tables ids)
    : (m >>= f).eval db
        =
      match m.eval db with
      | (.ok a, db') => (f a).eval db'
      | (.error err, db') => (.error err, db') := by
  have hrun : (m >>= f).run.run db = (ExceptT.bindCont f (m.run.run db).1).run (m.run.run db).2 := rfl
  unfold SeedM.eval
  rw [hrun]
  rcases m.run.run db with ⟨r, db'⟩
  cases r <;> rfl

theorem SeedM.of_eval_bind {α β : Type} {m : SeedM ids α} {f : α → SeedM ids β} {db db' : Tables ids} {b : β}
    (h : (m >>= f).eval db = (.ok b, db'))
    : ∃ a db₁, m.eval db = (.ok a, db₁) ∧ (f a).eval db₁ = (.ok b, db') := by
  rw [eval_bind] at h
  split at h
  . next a db₁ hm => exact ⟨a, db₁, hm, h⟩
  . cases h

theorem SeedM.of_eval_liftExcept {α : Type} {r : Except Err α} {a : α} {db db' : Tables ids}
    (h : (liftExcept r : SeedM ids α).eval db = (.ok a, db')) : r = .ok a := by
  cases r with
  | error err => cases h
  | ok a' =>
    cases h
    rfl

def upsertAlgorithm (alg : AlgorithmSeed) : SeedM ids Unit :=
  if alg.kind = "kem_group" ∨ alg.kind = "sig_alg" then
    modify (fun db => { db with algorithms := db.algorithms.upsert alg })
  else
    throw "new row for relation \"algorithms\" violates check constraint \"algorithms_kind_check\""

def upsertEndpoint (endpoint : EndpointSeed) : SeedM ids Unit :=
  if 1 ≤ endpoint.port ∧ endpoint.port ≤ 65535 then
    modify (fun db => { db with endpoints := db.endpoints.upsert endpoint })
  else
    throw "new row for relation \"endpoints\" violates check constraint \"endpoints_port_check\""

def upsertPack (pack : cavp.PackSeed) : SeedM ids Unit := do
  let pack ← liftExcept pack.toPack
  modify (fun db => { db with packs := db.packs.upsert pack })

def run (files : Files) : SeedM ids Unit := do
  let algorithms ← liftExcept files.algorithms
  algorithms.forM upsertAlgorithm
  let endpoints ← liftExcept files.endpoints
  endpoints.forM upsertEndpoint
  let packs ← liftExcept files.packs
  packs.forM upsertPack

inductive Statement where
  | algorithm (alg : AlgorithmSeed)
  | endpoint (endpoint : EndpointSeed)
  | pack (pack : cavp.PackSeed)

def Statement.perform (s : Statement) : SeedM ids Unit :=
  match s with
  | .algorithm alg => upsertAlgorithm alg
  | .endpoint e => upsertEndpoint e
  | .pack p => upsertPack p

def statements (algorithms : List AlgorithmSeed) (endpoints : List EndpointSeed) (packs : List cavp.PackSeed)
    : List Statement :=
  algorithms.map .algorithm ++ endpoints.map .endpoint ++ packs.map .pack

inductive Entry where
  | algorithm (alg : AlgorithmSeed)
  | endpoint (endpoint : EndpointSeed)
  | pack (pack : cavp.Pack)

def Entry.algorithm? (entry : Entry) : Option AlgorithmSeed :=
  match entry with
  | .algorithm alg => some alg
  | _ => none

def Entry.endpoint? (entry : Entry) : Option EndpointSeed :=
  match entry with
  | .endpoint e => some e
  | _ => none

def Entry.pack? (entry : Entry) : Option cavp.Pack :=
  match entry with
  | .pack p => some p
  | _ => none

def Statement.entry (s : Statement) : Except Err Entry :=
  match s with
  | .algorithm alg =>
    if alg.kind = "kem_group" ∨ alg.kind = "sig_alg" then
      .ok (.algorithm alg)
    else
      .error "new row for relation \"algorithms\" violates check constraint \"algorithms_kind_check\""
  | .endpoint e =>
    if 1 ≤ e.port ∧ e.port ≤ 65535 then
      .ok (.endpoint e)
    else
      .error "new row for relation \"endpoints\" violates check constraint \"endpoints_port_check\""
  | .pack p => p.toPack.map .pack

def Tables.put (db : Tables ids) (entry : Entry) : Tables ids :=
  match entry with
  | .algorithm alg => { db with algorithms := db.algorithms.upsert alg }
  | .endpoint e => { db with endpoints := db.endpoints.upsert e }
  | .pack p => { db with packs := db.packs.upsert p }

theorem eval_perform (s : Statement) (db : Tables ids)
    : s.perform.eval db
        =
      match s.entry with
      | .ok entry => (.ok (), db.put entry)
      | .error err => (.error err, db) := by
  cases s with
  | algorithm alg =>
    unfold Statement.perform Statement.entry upsertAlgorithm
    dsimp only
    split
    . rfl
    . rfl
  | endpoint e =>
    unfold Statement.perform Statement.entry upsertEndpoint
    dsimp only
    split
    . rfl
    . rfl
  | pack p =>
    unfold Statement.perform Statement.entry upsertPack
    dsimp only
    cases p.toPack <;> rfl

theorem eval_forM_cons (s : Statement) (rest : List Statement) (db : Tables ids)
    : ((s :: rest).forM Statement.perform).eval db
        =
      match s.entry with
      | .ok entry => (rest.forM Statement.perform).eval (db.put entry)
      | .error err => (.error err, db) := by
  have hbind : (s :: rest).forM Statement.perform
      = (s.perform >>= fun _ => rest.forM Statement.perform : SeedM ids Unit) := rfl
  rw [hbind, SeedM.eval_bind, eval_perform]
  cases s.entry <;> rfl

theorem eval_forM_of_entries {rest : List Statement} {entries : List Entry}
    (h : rest.map Statement.entry = entries.map .ok) (db : Tables ids)
    : (rest.forM Statement.perform).eval db = (.ok (), entries.foldl Tables.put db) := by
  induction rest generalizing entries db with
  | nil =>
    rw [List.map_nil, eq_comm, List.map_eq_nil_iff] at h
    subst h
    rfl
  | cons s rest ih =>
    cases entries with
    | nil => cases h
    | cons entry entries =>
      rw [List.map_cons, List.map_cons, List.cons.injEq] at h
      rw [eval_forM_cons, h.1]
      exact ih h.2 _

theorem entries_of_eval_forM {rest : List Statement} {db db' : Tables ids}
    (h : (rest.forM Statement.perform).eval db = (.ok (), db'))
    : ∃ entries : List Entry, rest.map Statement.entry = entries.map .ok ∧ db' = entries.foldl Tables.put db := by
  induction rest generalizing db with
  | nil =>
    cases h
    exact ⟨[], rfl, rfl⟩
  | cons s rest ih =>
    rw [eval_forM_cons] at h
    cases hentry : s.entry with
    | error err =>
      rw [hentry] at h
      cases h
    | ok entry =>
      rw [hentry] at h
      obtain ⟨entries, hentries, rfl⟩ := ih h
      exact ⟨entry :: entries, by rw [List.map_cons, List.map_cons, hentry, hentries], rfl⟩

section Components

variable (entries : List Entry) (db : Tables ids)

theorem algorithms_foldl_put
    : (entries.foldl Tables.put db).algorithms
        =
      (entries.filterMap Entry.algorithm?).foldl Keyed.Rows.upsert db.algorithms := by
  induction entries generalizing db with
  | nil => rfl
  | cons entry entries ih =>
    rw [List.foldl_cons, ih]
    cases entry <;> rfl

theorem endpoints_foldl_put
    : (entries.foldl Tables.put db).endpoints
        =
      (entries.filterMap Entry.endpoint?).foldl Keyed.Rows.upsert db.endpoints := by
  induction entries generalizing db with
  | nil => rfl
  | cons entry entries ih =>
    rw [List.foldl_cons, ih]
    cases entry <;> rfl

theorem packs_foldl_put
    : (entries.foldl Tables.put db).packs
        =
      (entries.filterMap Entry.pack?).foldl Keyed.Rows.upsert db.packs := by
  induction entries generalizing db with
  | nil => rfl
  | cons entry entries ih =>
    rw [List.foldl_cons, ih]
    cases entry <;> rfl

end Components

structure SameRows (db db' : Tables ids) : Prop where
  algorithms : db.algorithms.rows = db'.algorithms.rows
  endpoints : db.endpoints.rows = db'.endpoints.rows
  packs : db.packs.rows = db'.packs.rows

/--
The same rows in all tables but for the ids of rows that `base` does not have.
-/
structure SameUpToFresh (base db db' : Tables ids) : Prop where
  algorithms : Keyed.Same (base.algorithms.rows.map Keyed.Row.id) db.algorithms.rows db'.algorithms.rows
  endpoints : Keyed.Same (base.endpoints.rows.map Keyed.Row.id) db.endpoints.rows db'.endpoints.rows
  packs : Keyed.Same (base.packs.rows.map Keyed.Row.id) db.packs.rows db'.packs.rows

def held {α : Type} (file : Except Err (List α)) : List α :=
  file.toOption.getD []

structure Untouched (files : Files) (db db' : Tables ids) : Prop where
  algorithms :
    db'.algorithms.rows.filter (fun row => row.columns.key ∉ (held files.algorithms).map AlgorithmSeed.key)
      =
    db.algorithms.rows.filter (fun row => row.columns.key ∉ (held files.algorithms).map AlgorithmSeed.key)
  endpoints :
    db'.endpoints.rows.filter (fun row => row.columns.slug ∉ (held files.endpoints).map EndpointSeed.slug)
      =
    db.endpoints.rows.filter (fun row => row.columns.slug ∉ (held files.endpoints).map EndpointSeed.slug)
  packs :
    db'.packs.rows.filter (fun row => row.columns.slug ∉ (held files.packs).map cavp.PackSeed.slug)
      =
    db.packs.rows.filter (fun row => row.columns.slug ∉ (held files.packs).map cavp.PackSeed.slug)

def stopped (files : Files) (n : Nat) (db : Tables ids) : Tables ids :=
  (((statements (held files.algorithms) (held files.endpoints) (held files.packs)).take n).forM
    Statement.perform |>.eval db).2

section Run

variable {files : Files} {algorithms : List AlgorithmSeed} {endpoints : List EndpointSeed}
  {packs : List cavp.PackSeed} {entries : List Entry} {db db' : Tables ids}

theorem eval_forM_append {α : Type} (f : α → Statement) (g : α → SeedM ids Unit)
    (h : ∀ a, g a = (f a).perform) {m : SeedM ids Unit} {rest : List Statement}
    (hm : ∀ db, m.eval db = (rest.forM Statement.perform).eval db) (as : List α) (db : Tables ids)
    : (as.forM g >>= fun _ => m).eval db = ((as.map f ++ rest).forM Statement.perform).eval db := by
  induction as generalizing db with
  | nil => exact hm db
  | cons a as ih =>
    have hcons : ((a :: as).forM g >>= fun _ => m) = (g a >>= fun _ => as.forM g >>= fun _ => m) := by
      have hbind : (a :: as).forM g = (g a >>= fun _ => as.forM g) := rfl
      rw [hbind, bind_assoc]
    rw [hcons, SeedM.eval_bind, h, eval_perform, List.map_cons, List.cons_append, eval_forM_cons]
    cases (f a).entry with
    | error err => rfl
    | ok entry => exact ih _

theorem eval_run (halgorithms : files.algorithms = .ok algorithms) (hendpoints : files.endpoints = .ok endpoints)
    (hpacks : files.packs = .ok packs) (db : Tables ids)
    : (run files).eval db = ((statements algorithms endpoints packs).forM Statement.perform).eval db := by
  have hrun : run files = (algorithms.forM upsertAlgorithm >>= fun _ =>
      endpoints.forM upsertEndpoint >>= fun _ => packs.forM upsertPack >>= fun _ => pure () : SeedM ids Unit) := by
    unfold run
    rw [halgorithms, hendpoints, hpacks]
    simp only [bind_pure_unit]
    rfl
  unfold statements
  rw [hrun, List.append_assoc]
  apply eval_forM_append Statement.algorithm upsertAlgorithm (fun _ => rfl)
  apply eval_forM_append Statement.endpoint upsertEndpoint (fun _ => rfl)
  intro db
  have hend : ∀ db : Tables ids,
      (pure () : SeedM ids Unit).eval db = (([] : List Statement).forM Statement.perform).eval db := fun _ => rfl
  have hlast := eval_forM_append Statement.pack upsertPack (fun _ => rfl) hend packs db
  rw [List.append_nil] at hlast
  exact hlast

theorem files_of_run (h : (run files).eval db = (.ok (), db'))
    : ∃ algorithms endpoints packs,
        files.algorithms = .ok algorithms ∧ files.endpoints = .ok endpoints ∧ files.packs = .ok packs := by
  unfold run at h
  obtain ⟨algorithms, _, halgorithms, h⟩ := SeedM.of_eval_bind h
  obtain ⟨_, _, -, h⟩ := SeedM.of_eval_bind h
  obtain ⟨endpoints, _, hendpoints, h⟩ := SeedM.of_eval_bind h
  obtain ⟨_, _, -, h⟩ := SeedM.of_eval_bind h
  obtain ⟨packs, _, hpacks, -⟩ := SeedM.of_eval_bind h
  exact ⟨algorithms, endpoints, packs, SeedM.of_eval_liftExcept halgorithms,
    SeedM.of_eval_liftExcept hendpoints, SeedM.of_eval_liftExcept hpacks⟩

theorem entries_of_run (h : (run files).eval db = (.ok (), db'))
    : ∃ entries : List Entry,
        (statements (held files.algorithms) (held files.endpoints) (held files.packs)).map Statement.entry
          = entries.map .ok
        ∧ db' = entries.foldl Tables.put db
        ∧ ∀ db₂ : Tables ids, (run files).eval db₂ = (.ok (), entries.foldl Tables.put db₂) := by
  obtain ⟨algorithms, endpoints, packs, halgorithms, hendpoints, hpacks⟩ := files_of_run h
  rw [eval_run halgorithms hendpoints hpacks] at h
  obtain ⟨entries, hentries, rfl⟩ := entries_of_eval_forM h
  rw [halgorithms, hendpoints, hpacks]
  refine ⟨entries, hentries, rfl, ?_⟩
  intro db₂
  rw [eval_run halgorithms hendpoints hpacks]
  exact eval_forM_of_entries hentries db₂

theorem slug_of_toPack {p : cavp.PackSeed} {pack : cavp.Pack} (h : p.toPack = .ok pack) : pack.slug = p.slug := by
  unfold cavp.PackSeed.toPack at h
  cases hcapability : Fallible.okOr ([Capability.keyGen, .sigGen, .sigVer].find? (fun c => c.asStr == p.capability))
      s!"invalid input value for enum cavp_capability: \"{p.capability}\"" with
  | error err =>
    rw [hcapability] at h
    cases h
  | ok capability =>
    rw [hcapability] at h
    cases h
    rfl

theorem entry_cases {statement : Statement} {entry : Entry} (h : statement.entry = .ok entry)
    : (∃ alg, statement = .algorithm alg ∧ entry = .algorithm alg)
      ∨ (∃ e, statement = .endpoint e ∧ entry = .endpoint e)
      ∨ ∃ p pack, statement = .pack p ∧ p.toPack = .ok pack ∧ entry = .pack pack := by
  unfold Statement.entry at h
  cases statement with
  | algorithm alg =>
    dsimp only at h
    split at h
    . cases h
      exact .inl ⟨alg, rfl, rfl⟩
    . cases h
  | endpoint e =>
    dsimp only at h
    split at h
    . cases h
      exact .inr (.inl ⟨e, rfl, rfl⟩)
    . cases h
  | pack p =>
    dsimp only at h
    cases hpack : p.toPack with
    | error err =>
      rw [hpack] at h
      cases h
    | ok pack =>
      rw [hpack] at h
      cases h
      exact .inr (.inr ⟨p, pack, rfl, hpack, rfl⟩)

theorem keys_of_entries {algorithms : List AlgorithmSeed} {endpoints : List EndpointSeed}
    {packs : List cavp.PackSeed}
    (h : (statements algorithms endpoints packs).map Statement.entry = entries.map .ok)
    : (∀ a ∈ entries.filterMap Entry.algorithm?, a.key ∈ algorithms.map AlgorithmSeed.key)
      ∧ (∀ e ∈ entries.filterMap Entry.endpoint?, e.slug ∈ endpoints.map EndpointSeed.slug)
      ∧ ∀ p ∈ entries.filterMap Entry.pack?, p.slug ∈ packs.map cavp.PackSeed.slug := by
  have hfrom : ∀ entry ∈ entries, ∃ s ∈ statements algorithms endpoints packs, s.entry = .ok entry := by
    intro entry hentry
    have hmem : (Except.ok entry : Except Err Entry) ∈ entries.map .ok := List.mem_map_of_mem hentry
    rw [← h] at hmem
    obtain ⟨s, hs, heq⟩ := List.mem_map.mp hmem
    exact ⟨s, hs, heq⟩
  refine ⟨?_, ?_, ?_⟩
  . intro a ha
    obtain ⟨entry, hmem, hsome⟩ := List.mem_filterMap.mp ha
    obtain ⟨s, hs, hentry⟩ := hfrom entry hmem
    rcases entry_cases hentry with ⟨alg, rfl, rfl⟩ | ⟨e, rfl, rfl⟩ | ⟨p, pack, rfl, -, rfl⟩
    . cases hsome
      apply List.mem_map_of_mem
      simpa [statements] using hs
    . cases hsome
    . cases hsome
  . intro e he
    obtain ⟨entry, hmem, hsome⟩ := List.mem_filterMap.mp he
    obtain ⟨s, hs, hentry⟩ := hfrom entry hmem
    rcases entry_cases hentry with ⟨alg, rfl, rfl⟩ | ⟨e, rfl, rfl⟩ | ⟨p, pack, rfl, -, rfl⟩
    . cases hsome
    . cases hsome
      apply List.mem_map_of_mem
      simpa [statements] using hs
    . cases hsome
  . intro p hp
    obtain ⟨entry, hmem, hsome⟩ := List.mem_filterMap.mp hp
    obtain ⟨s, hs, hentry⟩ := hfrom entry hmem
    rcases entry_cases hentry with ⟨alg, rfl, rfl⟩ | ⟨e, rfl, rfl⟩ | ⟨p, pack, rfl, hpack, rfl⟩
    . cases hsome
    . cases hsome
    . cases hsome
      rw [slug_of_toPack hpack]
      apply List.mem_map_of_mem
      simpa [statements] using hs

theorem untouched_foldl_put {entries' : List Entry}
    (h : (statements (held files.algorithms) (held files.endpoints) (held files.packs)).map Statement.entry
      = entries.map .ok)
    (hsub : entries' ⊆ entries) (db : Tables ids) : Untouched files db (entries'.foldl Tables.put db) := by
  obtain ⟨halgorithms, hendpoints, hpacks⟩ := keys_of_entries h
  have hmem : ∀ {β : Type} {f : Entry → Option β} {b : β}, b ∈ entries'.filterMap f → b ∈ entries.filterMap f := by
    intro β f b hb
    obtain ⟨entry, hentry, hsome⟩ := List.mem_filterMap.mp hb
    exact List.mem_filterMap.mpr ⟨entry, hsub hentry, hsome⟩
  constructor
  case algorithms =>
    rw [algorithms_foldl_put]
    apply Keyed.Rows.filter_foldl_upsert (p := fun k => decide (k ∉ (held files.algorithms).map AlgorithmSeed.key))
    intro a ha
    simpa using halgorithms a (hmem ha)
  case endpoints =>
    rw [endpoints_foldl_put]
    apply Keyed.Rows.filter_foldl_upsert (p := fun k => decide (k ∉ (held files.endpoints).map EndpointSeed.slug))
    intro e he
    simpa using hendpoints e (hmem he)
  case packs =>
    rw [packs_foldl_put]
    apply Keyed.Rows.filter_foldl_upsert (p := fun k => decide (k ∉ (held files.packs).map cavp.PackSeed.slug))
    intro p hp
    simpa using hpacks p (hmem hp)

theorem sameRows_twice (entries : List Entry) (db : Tables ids)
    : SameRows (entries.foldl Tables.put (entries.foldl Tables.put db)) (entries.foldl Tables.put db) := by
  constructor
  . simp only [algorithms_foldl_put, Keyed.Rows.rows_foldl_upsert_twice]
  . simp only [endpoints_foldl_put, Keyed.Rows.rows_foldl_upsert_twice]
  . simp only [packs_foldl_put, Keyed.Rows.rows_foldl_upsert_twice]

theorem sameUpToFresh_resumed (xs ys : List Entry) (db : Tables ids)
    : SameUpToFresh db ((xs ++ ys).foldl Tables.put (xs.foldl Tables.put db)) ((xs ++ ys).foldl Tables.put db) := by
  constructor
  . simp only [algorithms_foldl_put, List.filterMap_append]
    apply Keyed.same_resumed
  . simp only [endpoints_foldl_put, List.filterMap_append]
    apply Keyed.same_resumed
  . simp only [packs_foldl_put, List.filterMap_append]
    apply Keyed.same_resumed

/--
Seeding again changes nothing, seeding after a run that stopped somewhere ends where that run would have
ended, and no row is touched whose key is in none of the files.
-/
theorem seed_again (h : (run files).eval db = (.ok (), db'))
    : (∃ again, (run files).eval db' = (.ok (), again) ∧ SameRows again db')
      ∧ (∀ n, ∃ resumed, (run files).eval (stopped files n db) = (.ok (), resumed)
          ∧ SameUpToFresh db resumed db'
          ∧ Untouched files db (stopped files n db)
          ∧ Untouched files db resumed)
      ∧ Untouched files db db' := by
  obtain ⟨entries, hentries, rfl, hrun⟩ := entries_of_run h
  refine ⟨⟨_, hrun _, sameRows_twice entries db⟩, ?_, untouched_foldl_put hentries (List.Subset.refl _) db⟩
  intro n
  have hstopped : stopped files n db = (entries.take n).foldl Tables.put db := by
    have htake : ((statements (held files.algorithms) (held files.endpoints) (held files.packs)).take n).map
        Statement.entry = (entries.take n).map .ok := by
      rw [List.map_take, hentries, List.map_take]
    unfold stopped
    rw [eval_forM_of_entries htake]
  have hsub : entries.take n ++ entries ⊆ entries := by
    apply List.append_subset.mpr
    exact ⟨List.take_subset n entries, List.Subset.refl _⟩
  have hresumed := sameUpToFresh_resumed (entries.take n) (entries.drop n) db
  rw [List.take_append_drop] at hresumed
  rw [hstopped]
  refine ⟨_, hrun _, hresumed, untouched_foldl_put hentries (List.take_subset n entries) db, ?_⟩
  rw [← List.foldl_append]
  exact untouched_foldl_put hentries hsub db

end Run

theorem injective_serial : Function.Injective (fun n : Nat => (n : Int) + 1) := by
  intro a b h
  dsimp only at h
  omega

def labFiles : Files :=
  {
    algorithms := .ok [
      ⟨"kem_group", "MLKEM768", "ML-KEM 768", none, false, 1⟩,
      ⟨"kem_group", "MLKEM768", "ML-KEM-768", some "pqc", true, 2⟩
    ]
    endpoints := .ok [⟨"tls-good", "Healthy", "Healthy", "tls-good", 11000, none, true⟩]
    packs := .ok []
  }

def labIds : Ids :=
  {
    algorithms := ⟨fun n => (n : Int) + 1, injective_serial⟩
    endpoints := ⟨id, Function.injective_id⟩
    packs := ⟨id, Function.injective_id⟩
  }

def labTables : Tables labIds :=
  {
    algorithms := .empty
    endpoints := .empty
    packs := .empty
  }

theorem seed_again_lab
    : ∃ db' resumed,
        (run labFiles).eval labTables = (.ok (), db')
          ∧ (run labFiles).eval (stopped labFiles 1 labTables) = (.ok (), resumed)
          ∧ SameUpToFresh labTables resumed db' := by
  have hok : ((run labFiles).eval labTables).1 = .ok () := rfl
  have hrun : (run labFiles).eval labTables = (.ok (), ((run labFiles).eval labTables).2) := by
    rw [← hok]
  obtain ⟨resumed, hresumed, hsame, -, -⟩ := (seed_again hrun).2.1 1
  exact ⟨_, resumed, hrun, hresumed, hsame⟩

end seed

end PqCas
