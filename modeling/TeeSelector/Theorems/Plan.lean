import Mathlib.Data.Rat.Floor
import TeeSelector.Plan

/-! `collect_buffers` and `extract_plan_tree` agree: on a document shaped like FORMAT JSON output,
    `summarize_plan` raises nothing, and each counter of the summary's `buffers` is the sum of that counter
    over the nodes of its `complete_plan_tree` reachable through `children`.

    Both walks visit the same nodes in the same order, so the proof is one induction over the shape of the
    document (`Shaped`): `Agrees agg agg' nodes` says what the accumulated `agg` holds after `nodes`, and it
    composes along the walk (`Agrees.trans`). -/

namespace TeeSelector

/-! ### Reading the summary -/

namespace Json

/-- `v.get(k)` of a dict; `None` for any other value. --/
def get (v : Json) (k : String) : Json :=
  match v with
  | obj kvs => Dict.get kvs k
  | _ => null

/-- An int's value; `0` for any other value. --/
def intOf : Json → Int
  | int n => n
  | _ => 0

end Json

/-- `(b or {}).get(k, 0)` of a `buffers` value whose counts are ints. --/
def countOf (b : Json) (k : String) : Int := (b.get k).intOf

mutual

/-- The nodes of a tree reachable through `children` links: the node, then those under each child. --/
def treeNodes : Json → List Json
  | .obj kvs => .obj kvs :: childNodes kvs
  | t => [t]

/-- The nodes under the children of a node with fields `kvs`, found at its first `children` entry. --/
def childNodes : List (String × Json) → List Json
  | [] => []
  | (k, v) :: kvs => if k = "children" then arrayNodes v else childNodes kvs

/-- The nodes of the trees in a `children` value, when it is a list. --/
def arrayNodes : Json → List Json
  | .arr ts => forestNodes ts
  | _ => []

/-- The nodes of the trees in a list. --/
def forestNodes : List Json → List Json
  | [] => []
  | t :: ts => treeNodes t ++ forestNodes ts

end

/-- The sum of counter `k` over `nodes`. --/
def countSum : List Json → String → Int
  | [], _ => 0
  | n :: nodes, k => countOf (n.get "buffers") k + countSum nodes k

theorem countSum_append (n₁ n₂ : List Json) (k : String) :
    countSum (n₁ ++ n₂) k = countSum n₁ k + countSum n₂ k := by
  induction n₁ with
  | nil => simp [countSum]
  | cons n n₁ ih => rw [List.cons_append, countSum, countSum, ih, Int.add_assoc]

/-! ### The counter loop -/

theorem Counts.get_setItem (agg : Counts) (k k' : String) (v : Int) :
    Counts.get (setItem agg k v) k' = if k' = k then v else agg.get k' := by
  unfold Counts.get
  induction agg with
  | nil =>
    by_cases h : k' = k
    · simp [setItem, h]
    · simp [setItem, Dict.lookup_cons_of_ne h, h]
  | cons e agg ih =>
    obtain ⟨k₀, v₀⟩ := e
    by_cases h : k' = k₀
    · subst h
      by_cases h₀ : k' = k
      · subst h₀
        simp [setItem]
      · simp [setItem, h₀, Ne.symm h₀]
    · by_cases h₀ : k₀ = k
      · subst h₀
        simp [setItem, Dict.lookup_cons_of_ne h, h]
      · simp [setItem, h₀, Dict.lookup_cons_of_ne h, ih]

theorem setItem_ne_nil {α : Type} (d : List (String × α)) (k : String) (v : α) : setItem d k v ≠ [] := by
  cases d with
  | nil => simp [setItem]
  | cons e d => simp only [setItem]; split <;> simp

/-- What `collect_buffers` adds for counter `k` at node `p`: `int(p[k])`, when `p[k]` is a number. --/
def counterOf (p : Dict) (k : String) : Int :=
  match (p.get? k).bind Json.number? with
  | some x => Json.truncate x
  | none => 0

theorem foldl_addCounter_get (p : Dict) (k : String) :
    ∀ (keys : List String) (agg : Counts), keys.Nodup →
      (keys.foldl (addCounter p) agg).get k = agg.get k + if k ∈ keys then counterOf p k else 0
  | [], agg, _ => by simp
  | k₀ :: keys, agg, nodup => by
    rw [List.nodup_cons] at nodup
    rw [List.foldl_cons, foldl_addCounter_get p k keys _ nodup.2]
    unfold addCounter counterOf
    by_cases same : k = k₀
    · subst same
      cases found : (p.get? k).bind Json.number? <;> simp [found, Counts.get_setItem, nodup.1]
    · cases found : (p.get? k₀).bind Json.number? <;> simp [found, Counts.get_setItem, same]

theorem foldl_addCounter_eq_nil (p : Dict) :
    ∀ (keys : List String) (agg : Counts),
      keys.foldl (addCounter p) agg = [] ↔ agg = [] ∧ ∀ k ∈ keys, (p.get? k).bind Json.number? = none
  | [], agg => by simp
  | k₀ :: keys, agg => by
    rw [List.foldl_cons, foldl_addCounter_eq_nil p keys, List.forall_mem_cons]
    unfold addCounter
    cases found : (p.get? k₀).bind Json.number? <;> simp [setItem_ne_nil]

theorem truncate_intCast (n : Int) : Json.truncate n = n := by
  unfold Json.truncate
  split
  · simp [Rat.floor]
  · simp [Rat.ceil]

/-- A counter that is absent, `null` or an int. --/
def IsCount : Option Json → Prop
  | none | some .null | some (.int _) => True
  | some _ => False

instance : DecidablePred IsCount
  | none | some .null | some (.int _) => isTrue trivial
  | some (.bool _) | some (.float _) | some (.str _) | some (.arr _) | some (.obj _) => isFalse id

theorem counterOf_of_isCount {p : Dict} {k : String} (h : IsCount (p.get? k)) : counterOf p k = (p.get k).intOf := by
  unfold counterOf Dict.get
  match found : p.get? k, h with
  | none, _ => rfl
  | some .null, _ => rfl
  | some (.int n), _ => simp [Json.number?, truncate_intCast, Json.intOf]

theorem getD_null_of_isCount {p : Dict} {k : String} (h : IsCount (p.get? k)) :
    p.get k = .null ↔ (p.get? k).bind Json.number? = none := by
  unfold Dict.get
  match p.get? k, h with
  | none, _ => simp
  | some .null, _ => simp [Json.number?]
  | some (.int n), _ => simp [Json.number?]

/-! ### The buffers of a tree node -/

theorem bufferEntry_eq_some {p : Dict} {k : String} {e : String × Json} (h : bufferEntry p k = some e) :
    e = (k, p.get k) := by
  unfold bufferEntry at h
  split at h <;> simp_all

theorem lookup_filterMap_bufferEntry (p : Dict) (k : String) :
    ∀ keys : List String, keys.Nodup →
      (keys.filterMap (bufferEntry p)).lookup k = if k ∈ keys then (bufferEntry p k).map Prod.snd else none
  | [], _ => rfl
  | k₀ :: keys, nodup => by
    rw [List.nodup_cons] at nodup
    have rest := lookup_filterMap_bufferEntry p k keys nodup.2
    rw [List.filterMap_cons]
    by_cases same : k = k₀
    · subst same
      cases entry : bufferEntry p k with
      | none => simp [rest, nodup.1, entry]
      | some e => simp [bufferEntry_eq_some entry]
    · cases entry : bufferEntry p k₀ with
      | none => simp [rest, same]
      | some e => simp [bufferEntry_eq_some entry, Dict.lookup_cons_of_ne same, rest, same]

theorem countOf_or_null (L : Dict) (k : String) : countOf ((Json.obj L).or .null) k = ((L.lookup k).getD .null).intOf := by
  cases L <;> rfl

/-- A tree node's `buffers` holds the node's counters, as `extract_plan_tree` copies them. --/
theorem countOf_nodeBuffers (p : Dict) (k : String) :
    countOf (nodeBuffers p) k = if k ∈ bufferKeys then (p.get k).intOf else 0 := by
  rw [nodeBuffers, countOf_or_null, lookup_filterMap_bufferEntry p k bufferKeys (by decide)]
  unfold bufferEntry
  split
  · split <;> simp_all [Json.intOf]
  · rfl

theorem nodeBuffers_eq_null (p : Dict) : nodeBuffers p = .null ↔ ∀ k ∈ bufferKeys, p.get k = .null := by
  have entry : ∀ k, bufferEntry p k = none ↔ p.get k = .null := fun k => by
    unfold bufferEntry
    split <;> simp_all
  rw [nodeBuffers]
  cases kept : bufferKeys.filterMap (bufferEntry p) with
  | nil =>
    rw [List.filterMap_eq_nil_iff] at kept
    exact ⟨fun _ k mem => (entry k).mp (kept k mem), fun _ => rfl⟩
  | cons e kept' =>
    refine ⟨fun h => (by cases h), fun none => ?_⟩
    have empty := List.filterMap_eq_nil_iff.mpr fun k mem => (entry k).mpr (none k mem)
    rw [kept] at empty
    cases empty

/-! ### What `collect_buffers` accumulates -/

/-- After the nodes `nodes`, each count of `agg'` is that of `agg` plus the counter summed over the nodes, and
    `agg'` is empty exactly when `agg` is and no node has buffers. --/
structure Agrees (agg agg' : Counts) (nodes : List Json) : Prop where
  count : ∀ k, agg'.get k = agg.get k + countSum nodes k
  empty : agg' = [] ↔ agg = [] ∧ ∀ n ∈ nodes, n.get "buffers" = .null

theorem Agrees.nil (agg : Counts) : Agrees agg agg [] := ⟨fun k => by simp [countSum], by simp⟩

theorem Agrees.trans {a b c : Counts} {n₁ n₂ : List Json} (h₁ : Agrees a b n₁) (h₂ : Agrees b c n₂) :
    Agrees a c (n₁ ++ n₂) where
  count k := by
    rw [h₂.count, h₁.count, countSum_append, Int.add_assoc]
  empty := by
    rw [h₂.empty, h₁.empty, List.forall_mem_append, and_assoc]

/-- The counter loop at `p` adds the counters of the tree node built from `p`. --/
theorem agrees_addCounters {p : Dict} (counts : ∀ k ∈ bufferKeys, IsCount (p.get? k)) {t : Json}
    (buffers : t.get "buffers" = nodeBuffers p) (agg : Counts) : Agrees agg (addCounters p agg) [t] where
  count k := by
    rw [addCounters, foldl_addCounter_get p k bufferKeys agg (by decide)]
    simp only [countSum, List.map_cons, List.map_nil, List.sum_cons, List.sum_nil, add_zero, buffers,
      countOf_nodeBuffers]
    split
    next mem => rw [counterOf_of_isCount (counts k mem)]
    · rfl
  empty := by
    rw [addCounters, foldl_addCounter_eq_nil, List.forall_mem_singleton, buffers, nodeBuffers_eq_null]
    exact and_congr_right fun _ => forall₂_congr fun k mem => (getD_null_of_isCount (counts k mem)).symm

/-! ### The tree node of `extract_plan_tree` -/

theorem planTreeFields_keys : ∀ f ∈ planTreeFields, f.1 ≠ "buffers" ∧ f.1 ≠ "children" := by decide

theorem childNodes_cons_of_ne {k : String} (h : k ≠ "children") (v : Json) (kvs : Dict) :
    childNodes ((k, v) :: kvs) = childNodes kvs :=
  if_neg h

theorem childNodes_append {A : Dict} (h : ∀ kv ∈ A, kv.1 ≠ "children") (B : Dict) :
    childNodes (A ++ B) = childNodes B := by
  induction A with
  | nil => rfl
  | cons kv A ih =>
    obtain ⟨k, v⟩ := kv
    simp only [List.mem_cons, forall_eq_or_imp] at h
    rw [List.cons_append, childNodes_cons_of_ne h.1, ih h.2]

theorem treeNodes_planTreeNode (p : Dict) (ts : List Json) (rest : Dict) :
    treeNodes (.obj (planTreeNode p ts ++ rest)) = .obj (planTreeNode p ts ++ rest) :: forestNodes ts := by
  have fields : ∀ kv ∈ planTreeFields.map (fun (o, k) => (o, p.get k)), kv.1 ≠ "children" := by
    simp only [List.mem_map, Prod.exists, forall_exists_index, and_imp]
    rintro _ o k mem rfl
    exact (planTreeFields_keys _ mem).2
  rw [treeNodes, planTreeNode, List.append_assoc, childNodes_append fields]
  simp [childNodes]
  rfl

theorem get_buffers_planTreeNode (p : Dict) (ts : List Json) (rest : Dict) :
    (Json.obj (planTreeNode p ts ++ rest)).get "buffers" = nodeBuffers p := by
  have fields : (planTreeFields.map (fun (o, k) => (o, p.get k))).lookup "buffers" = none := by
    simp only [List.lookup_eq_none_iff, List.mem_map, Prod.exists, forall_exists_index, and_imp]
    rintro _ o k mem rfl
    simpa using (planTreeFields_keys _ mem).1.symm
  simp only [Json.get, Dict.get, Dict.get?, planTreeNode, List.append_assoc, List.lookup_append, fields,
    Option.none_or]
  rfl

/-! ### Documents shaped like FORMAT JSON output -/

/-- The children of a node whose `Plans` is absent or `null` (none), or a list (its dicts). --/
def PlansList (p : Dict) (children : List Dict) : Prop :=
  match p.get? "Plans" with
  | none | some .null => children = []
  | some (.arr xs) => children = Json.dicts xs
  | some _ => False

/-- A plan node shaped like FORMAT JSON output, together with every node below it that either walk visits:
    each counter absent, `null` or an int; `Plans` absent, `null` or a list; each `Workers` entry a dict. --/
inductive Shaped : Dict → Prop
  | mk {p : Dict} {children : List Dict} :
      (∀ k ∈ bufferKeys, IsCount (p.get? k)) → PlansList p children → (∀ c ∈ children, Shaped c) →
      (∀ ws, p.get? "Workers" = some (.arr ws) → ∀ w ∈ ws, ∃ kvs, w = .obj kvs) →
      (∀ ws, p.get? "Workers" = some (.arr ws) → ∀ w ∈ Json.dicts ws, ∀ plan, Dict.get w "Plan" = .obj plan →
        Shaped plan) →
      Shaped p

theorem plans_iter_of {p : Dict} {children : List Dict} (h : PlansList p children) :
    ∃ xs, (plans p).iter = .ok xs ∧ Json.dicts xs = children := by
  unfold PlansList at h
  unfold plans Dict.getD
  split at h
  next found => exact ⟨[], by simp [found, Json.or, Json.truthy, Json.iter], h.symm⟩
  next found => exact ⟨[], by simp [found, Json.or, Json.truthy, Json.iter], h.symm⟩
  next xs found =>
    cases xs with
    | nil => exact ⟨[], by simp [found, Json.or, Json.truthy, Json.iter], h.symm⟩
    | cons x xs => exact ⟨x :: xs, by simp [found, Json.or, Json.truthy, Json.iter], h.symm⟩
  · cases h

/-- Both walks succeed at `p`, and `collect_buffers` adds the counters of the nodes of the tree that
    `extract_plan_tree` builds. --/
def Walks (p : Dict) : Prop :=
  ∃ t, extractPlanTree p = .ok t ∧
    ∀ agg, ∃ agg', collectBuffers p agg = .ok agg' ∧ Agrees agg agg' (treeNodes t)

theorem walks_children {cs : List Dict} (walks : ∀ c ∈ cs, Walks c) :
    ∃ ts, extractChildren cs = .ok ts ∧
      ∀ agg, ∃ agg', collectChildren cs agg = .ok agg' ∧ Agrees agg agg' (forestNodes ts) := by
  induction cs with
  | nil => exact ⟨[], extractChildren.eq_1, fun agg => ⟨agg, by rw [collectChildren.eq_1], by simpa using Agrees.nil agg⟩⟩
  | cons c cs ih =>
    obtain ⟨t, tree, collect⟩ := walks c (List.mem_cons_self _ _)
    obtain ⟨ts, trees, collects⟩ := ih fun c' mem => walks c' (List.mem_cons_of_mem _ mem)
    refine ⟨t :: ts, by rw [extractChildren.eq_2, tree, trees]; rfl, fun agg => ?_⟩
    obtain ⟨agg₁, first, agrees₁⟩ := collect agg
    obtain ⟨agg₂, rest, agrees₂⟩ := collects agg₁
    exact ⟨agg₂, by rw [collectChildren.eq_2, first]; exact rest, by simpa using agrees₁.trans agrees₂⟩

theorem copyWorker_obj {kvs : Dict} (walks : ∀ plan, Dict.get kvs "Plan" = .obj plan → Walks plan) :
    ∃ copy, copyWorker (.obj kvs) = .ok copy := by
  rw [copyWorker.eq_1]
  split
  next bad => cases bad
  next wCopy copied =>
    cases copied
    split
    next plan found =>
      obtain ⟨t, tree, -⟩ := walks plan found
      exact ⟨_, by rw [tree]; rfl⟩
    next => exact ⟨_, rfl⟩

theorem extractWorkers_ok {ws : List Json} (objects : ∀ w ∈ ws, ∃ kvs, w = .obj kvs)
    (walks : ∀ w ∈ Json.dicts ws, ∀ plan, Dict.get w "Plan" = .obj plan → Walks plan) :
    ∃ copies, extractWorkers ws = .ok copies := by
  induction ws with
  | nil => exact ⟨[], extractWorkers.eq_1⟩
  | cons w ws ih =>
    obtain ⟨kvs, rfl⟩ := objects w (List.mem_cons_self _ _)
    obtain ⟨copy, copied⟩ := copyWorker_obj (walks kvs (List.mem_cons_self _ _))
    obtain ⟨copies, rest⟩ := ih (fun w mem => objects w (List.mem_cons_of_mem _ mem))
      (fun w mem => walks w (by simpa [Json.dicts] using Or.inr mem))
    exact ⟨copy :: copies, by rw [extractWorkers.eq_2, copied, rest]; rfl⟩

theorem collectBuffers_of_iter {p : Dict} {xs : List Json} (iter : (plans p).iter = .ok xs) (agg : Counts) :
    collectBuffers p agg = collectChildren (Json.dicts xs) (addCounters p agg) := by
  rw [collectBuffers.eq_1]
  split <;> simp_all

theorem extractPlanTree_ok {p : Dict} {xs ts : List Json} (iter : (plans p).iter = .ok xs)
    (trees : extractChildren (Json.dicts xs) = .ok ts)
    (workers : ∀ ws, p.get? "Workers" = some (.arr ws) → ∃ copies, extractWorkers ws = .ok copies) :
    ∃ rest, extractPlanTree p = .ok (.obj (planTreeNode p ts ++ rest)) := by
  rw [extractPlanTree.eq_1]
  split
  next bad => rw [iter] at bad; cases bad
  next xs' same =>
    rw [iter, Except.ok.injEq] at same
    subst same
    rw [trees]
    split
    next ws found =>
      obtain ⟨copies, copied⟩ := workers ws found
      exact ⟨_, by rw [copied]; rfl⟩
    next => exact ⟨[], by rw [List.append_nil]; rfl⟩

/-- On a shaped node both walks succeed and visit the same nodes. --/
theorem Shaped.walks {p : Dict} (h : Shaped p) : Walks p := by
  induction h with
  | @mk p children counts plansList _ objects _ childWalks workerWalks =>
    obtain ⟨xs, iter, rfl⟩ := plans_iter_of plansList
    obtain ⟨ts, trees, collect⟩ := walks_children childWalks
    obtain ⟨rest, tree⟩ := extractPlanTree_ok iter trees fun ws found =>
      extractWorkers_ok (objects ws found) (workerWalks ws found)
    refine ⟨_, tree, fun agg => ?_⟩
    obtain ⟨agg', collected, agrees⟩ := collect (addCounters p agg)
    refine ⟨agg', by rw [collectBuffers_of_iter iter]; exact collected, ?_⟩
    rw [treeNodes_planTreeNode, ← List.singleton_append]
    exact (agrees_addCounters counts (get_buffers_planTreeNode p ts rest) agg).trans agrees

/-! ### The summary -/

/-- A document shaped like FORMAT JSON output: a dict, or a list whose first element is a dict, with a `Plan`
    that is absent or a shaped node. --/
def ShapedDoc (v : Json) : Prop :=
  ∃ top : Dict, (v = .obj top ∨ ∃ rest, v = .arr (.obj top :: rest)) ∧
    (top.get? "Plan" = none ∨ ∃ plan, top.get? "Plan" = some (.obj plan) ∧ Shaped plan)

theorem shaped_nil : Shaped [] :=
  @Shaped.mk _ [] (fun _ _ => trivial) rfl (fun _ h => by cases h) (fun _ h => by cases h)
    (fun _ h => by cases h)

theorem countOf_counts (agg : Counts) (k : String) :
    countOf ((Json.obj (agg.map fun (k, n) => (k, .int n))).or .null) k = agg.get k := by
  rw [countOf_or_null, Counts.get]
  induction agg with
  | nil => rfl
  | cons e agg ih =>
    obtain ⟨k₀, n⟩ := e
    by_cases same : k = k₀
    · subst same
      simp [Json.intOf]
    · simpa [Dict.lookup_cons_of_ne same] using ih

theorem counts_or_null (agg : Counts) :
    (Json.obj (agg.map fun (k, n) => (k, .int n))).or .null = .null ↔ agg = [] := by
  cases agg <;> simp [Json.or, Json.truthy]

/-- On every document shaped like FORMAT JSON output, at any depth, `summarize_plan` returns a summary without
    an `error` key, with `buffers` and `complete_plan_tree`. The tree is what `extract_plan_tree` gives for the
    document's `Plan`; each counter of `buffers` (`None` read as `{}`) is the sum of that counter over the nodes
    of the tree reachable through `children`, and so `buffers` is `None` exactly when the `buffers` of every
    such node is. --/
theorem summarizePlan_buffers_agree {v : Json} (h : ShapedDoc v) :
    ∃ kvs buffers tree, summarizePlan v = .obj kvs ∧ kvs.lookup "error" = none ∧
      kvs.lookup "buffers" = some buffers ∧ kvs.lookup "complete_plan_tree" = some tree ∧
      (∃ top plan, (topOf v).asDict = .ok top ∧ (Dict.getD top "Plan" (.obj [])).asDict = .ok plan ∧
        extractPlanTree plan = .ok tree) ∧
      (∀ k, countOf buffers k = countSum (treeNodes tree) k) ∧
      (buffers = .null ↔ ∀ n ∈ treeNodes tree, n.get "buffers" = .null) := by
  obtain ⟨top, doc, planShape⟩ := h
  have topDict : (topOf v).asDict = .ok top := by
    rcases doc with rfl | ⟨rest, rfl⟩ <;> rfl
  obtain ⟨plan, planDict, shaped⟩ : ∃ plan : Dict, (top.getD "Plan" (.obj [])).asDict = .ok plan ∧ Shaped plan := by
    rcases planShape with none | ⟨plan, found, shaped⟩
    · exact ⟨[], by simp [Dict.getD, none, Json.asDict], shaped_nil⟩
    · exact ⟨plan, by simp [Dict.getD, found, Json.asDict], shaped⟩
  obtain ⟨t, tree, collect⟩ := shaped.walks
  obtain ⟨agg, collected, agrees⟩ := collect []
  refine ⟨_, _, t, by simp only [summarizePlan, summarizePlanTry, topDict, planDict, collected, tree, bind,
    Except.bind, pure, Except.pure]; rfl, by rfl, by rfl, by rfl, ⟨top, plan, topDict, planDict, tree⟩,
    fun k => ?_, ?_⟩
  · rw [countOf_counts, agrees.count]
    simp [Counts.get]
  · rw [counts_or_null, agrees.empty]
    simp

/-- A root with one child, each reporting shared hits. --/
def twoNodePlan : Json :=
  .arr [.obj [("Plan", .obj [("Shared Hit Blocks", .int 5), ("Plans", .arr [.obj [("Shared Hit Blocks", .int 3)]])])]]

theorem summarizePlan_buffers_agree_two_nodes :
    ShapedDoc twoNodePlan ∧
    ∃ kvs buffers tree, summarizePlan twoNodePlan = .obj kvs ∧ kvs.lookup "error" = none ∧
      kvs.lookup "buffers" = some buffers ∧ kvs.lookup "complete_plan_tree" = some tree ∧
      (∃ top plan, (topOf twoNodePlan).asDict = .ok top ∧ (Dict.getD top "Plan" (.obj [])).asDict = .ok plan ∧
        extractPlanTree plan = .ok tree) ∧
      (∀ k, countOf buffers k = countSum (treeNodes tree) k) ∧
      (buffers = .null ↔ ∀ n ∈ treeNodes tree, n.get "buffers" = .null) :=
  have leaf : Shaped [("Shared Hit Blocks", .int 3)] :=
    @Shaped.mk _ [] (by decide) rfl (fun _ h => by cases h) (fun _ h => by cases h) (fun _ h => by cases h)
  have root : Shaped [("Shared Hit Blocks", .int 5), ("Plans", .arr [.obj [("Shared Hit Blocks", .int 3)]])] :=
    @Shaped.mk _ [[("Shared Hit Blocks", .int 3)]] (by decide) rfl
      (fun c h => by rw [List.mem_singleton.mp h]; exact leaf) (fun _ h => by cases h) (fun _ h => by cases h)
  have doc : ShapedDoc twoNodePlan := ⟨_, .inr ⟨[], rfl⟩, .inr ⟨_, rfl, root⟩⟩
  ⟨doc, summarizePlan_buffers_agree doc⟩

end TeeSelector
