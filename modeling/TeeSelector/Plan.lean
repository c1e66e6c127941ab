import TeeSelector.Python

/-! The EXPLAIN plan summary of `execute_sql_queries_enhanced_with_analyze.py`: `summarize_plan`, with its
    inner `collect_buffers`, and `extract_plan_tree`, over a decoded FORMAT JSON document.

    Both walks go down into the dicts among a node's `Plans`, and `extract_plan_tree` also into the `Plan` of
    every entry of a `Workers` list. Each is defined together with its loops, by well-founded recursion on the
    size of the node, and gives `.error` with the message of the exception Python raises. -/

namespace TeeSelector

/-! ### Plan nodes -/

/-- The buffer counters, in the order both walks list them. --/
def bufferKeys : List String :=
  ["Shared Hit Blocks", "Shared Read Blocks", "Shared Dirtied Blocks", "Shared Written Blocks",
    "Local Hit Blocks", "Local Read Blocks", "Local Dirtied Blocks", "Local Written Blocks",
    "Temp Read Blocks", "Temp Written Blocks"]

/-- `p.get("Plans", []) or []`: what both walks iterate for the children of `p`. --/
def plans (p : Dict) : Json := (p.getD "Plans" (.arr [])).or (.arr [])

theorem sizeOf_dicts_le : ∀ xs : List Json, sizeOf (Json.dicts xs) ≤ sizeOf xs
  | [] => le_refl _
  | x :: xs => by
    have := sizeOf_dicts_le xs
    cases x <;> simp only [Json.dicts, List.cons.sizeOf_spec, Json.obj.sizeOf_spec] <;> omega

theorem sizeOf_list_pos {α : Type} [SizeOf α] (l : List α) : 0 < sizeOf l := by
  cases l <;> simp only [List.nil.sizeOf_spec, List.cons.sizeOf_spec] <;> omega

theorem sizeOf_dicts_iter {v : Json} {xs : List Json} (h : v.iter = .ok xs) : sizeOf (Json.dicts xs) ≤ sizeOf v := by
  rcases v with _ | _ | _ | _ | s | ys | kvs <;> simp only [Json.iter, Except.ok.injEq, reduceCtorEq] at h <;>
    subst h
  · simp
  · have := sizeOf_dicts_le ys
    simp only [Json.arr.sizeOf_spec]
    omega
  · simp

/-- The children both walks visit are together no larger than their parent. --/
theorem sizeOf_dicts_plans {p : Dict} {xs : List Json} (h : (plans p).iter = .ok xs) :
    sizeOf (Json.dicts xs) ≤ sizeOf p := by
  have empty : sizeOf (Json.dicts []) ≤ sizeOf p := sizeOf_list_pos p
  unfold plans Json.or Dict.getD at h
  cases found : p.get? "Plans" with
  | none => simp_all [Json.truthy, Json.iter]
  | some v =>
    have lt := Dict.sizeOf_lt_of_get? found
    simp only [found, Option.getD_some] at h
    split at h
    · exact (sizeOf_dicts_iter h).trans lt.le
    · simp_all [Json.iter]

/-! ### `collect_buffers` -/

/-- A dict of ints, such as `agg`, in insertion order. --/
abbrev Counts := List (String × Int)

/-- `agg.get(k, 0)`. --/
def Counts.get (agg : Counts) (k : String) : Int := (agg.lookup k).getD 0

/-- One pass of the counter loop of `collect_buffers`:
    `if k in p and isinstance(p[k], (int, float)): agg[k] = agg.get(k, 0) + int(p[k])`. --/
def addCounter (p : Dict) (agg : Counts) (k : String) : Counts :=
  match (p.get? k).bind Json.number? with
  | some x => setItem agg k (agg.get k + Json.truncate x)
  | none => agg

/-- The counter loop of `collect_buffers`. --/
def addCounters (p : Dict) (agg : Counts) : Counts := bufferKeys.foldl (addCounter p) agg

mutual

/-- `collect_buffers(p, agg)`, giving the new `agg`. --/
def collectBuffers (p : Dict) (agg : Counts) : Except String Counts :=
  match _h : (plans p).iter with
  | .error e => .error e
  | .ok xs => collectChildren (Json.dicts xs) (addCounters p agg)
termination_by sizeOf p + 1
decreasing_by exact Nat.lt_succ_of_le (sizeOf_dicts_plans _h)

/-- The loop `for child in ...: if isinstance(child, dict): collect_buffers(child, agg)`. --/
def collectChildren (cs : List Dict) (agg : Counts) : Except String Counts :=
  match cs with
  | [] => .ok agg
  | c :: cs => do collectChildren cs (← collectBuffers c agg)
termination_by sizeOf cs
decreasing_by
  all_goals simp_wf
  all_goals have := sizeOf_list_pos ‹List Dict›
  all_goals omega

end

/-! ### `extract_plan_tree` -/

/-- The fields `extract_plan_tree` copies from a node, as (tree key, node key), in its order. --/
def planTreeFields : List (String × String) :=
  [("node_type", "Node Type"), ("parent_relationship", "Parent Relationship"), ("strategy", "Strategy"),
    ("join_type", "Join Type"), ("parallel_aware", "Parallel Aware"), ("async_capable", "Async Capable"),
    ("relation", "Relation Name"), ("schema", "Schema"), ("alias", "Alias"), ("index_name", "Index Name"),
    ("startup_cost", "Startup Cost"), ("total_cost", "Total Cost"), ("plan_rows", "Plan Rows"),
    ("plan_width", "Plan Width"), ("actual_startup_time_ms", "Actual Startup Time"),
    ("actual_total_time_ms", "Actual Total Time"), ("actual_rows", "Actual Rows"),
    ("actual_loops", "Actual Loops"), ("output", "Output"), ("filter", "Filter"), ("index_cond", "Index Cond"),
    ("recheck_cond", "Recheck Cond"), ("hash_cond", "Hash Cond"), ("join_filter", "Join Filter"),
    ("merge_cond", "Merge Cond"), ("sort_key", "Sort Key"), ("group_key", "Group Key"),
    ("hash_key", "Hash Key"), ("exact_heap_tuples", "Exact Heap Tuples")]

/-- The entry `k: node.get(k)` of the `buffers` comprehension, kept when `node.get(k) is not None`. --/
def bufferEntry (node : Dict) (k : String) : Option (String × Json) :=
  match node.get k with
  | .null => none
  | v => some (k, v)

/-- The `buffers` of a tree node: `{k: node.get(k) for k in keys if node.get(k) is not None} or None`. --/
def nodeBuffers (node : Dict) : Json := (Json.obj (bufferKeys.filterMap (bufferEntry node))).or .null

/-- The dict `out` of `extract_plan_tree`, with `children` the trees of the node's children. --/
def planTreeNode (node : Dict) (children : List Json) : Dict :=
  planTreeFields.map (fun (o, k) => (o, node.get k)) ++
    [("buffers", nodeBuffers node), ("workers_planned", node.get "Workers Planned"),
      ("workers_launched", node.get "Workers Launched"), ("children", .arr children)]

theorem Dict.mem_of_get? {d : Dict} {k : String} {v : Json} (h : d.get? k = some v) : (k, v) ∈ d := by
  induction d with
  | nil => cases h
  | cons kv d ih =>
    obtain ⟨a, b⟩ := kv
    simp only [Dict.get?, List.lookup_cons] at h
    split at h
    next same =>
      cases h
      rw [show a = k from (beq_iff_eq.mp same).symm]
      exact List.mem_cons_self _ _
    · exact List.mem_cons_of_mem _ (ih h)

/-- The `Plan` of a worker's copy is smaller than the worker entry. --/
theorem sizeOf_lt_of_worker {w : Json} {wCopy plan : Dict} (copied : w.toDict = .ok wCopy)
    (h : wCopy.get "Plan" = .obj plan) : sizeOf plan + 1 < sizeOf w := by
  unfold Dict.get at h
  cases found : wCopy.get? "Plan" with
  | none => simp [found] at h
  | some v =>
    simp only [found, Option.getD_some] at h
    subst h
    rcases Json.sizeOf_of_toDict copied (Dict.mem_of_get? found) with ⟨_, bad⟩ | lt
    · cases bad
    · simp only [Json.obj.sizeOf_spec] at lt
      omega

mutual

/-- `extract_plan_tree(node)`. --/
def extractPlanTree (node : Dict) : Except String Json :=
  match _h : (plans node).iter with
  | .error e => .error e
  | .ok xs => do
    let children ← extractChildren (Json.dicts xs)
    let out := planTreeNode node children
    match hw : node.get? "Workers" with
    | some (.arr ws) => return .obj (out ++ [("workers", .arr (← extractWorkers ws))])
    | _ => return .obj out
termination_by sizeOf node + 1
decreasing_by
  · exact Nat.lt_succ_of_le (sizeOf_dicts_plans _h)
  · have := Dict.sizeOf_lt_of_get? hw
    simp only [Json.arr.sizeOf_spec] at this
    omega

/-- The loop `for child in ...: if isinstance(child, dict): out["children"].append(...)`. --/
def extractChildren (cs : List Dict) : Except String (List Json) :=
  match cs with
  | [] => .ok []
  | c :: cs => do return (← extractPlanTree c) :: (← extractChildren cs)
termination_by sizeOf cs
decreasing_by
  all_goals simp_wf
  all_goals have := sizeOf_list_pos ‹List Dict›
  all_goals omega

/-- The loop `for w in node["Workers"]: out["workers"].append(...)`. --/
def extractWorkers (ws : List Json) : Except String (List Json) :=
  match ws with
  | [] => .ok []
  | w :: ws => do return (← copyWorker w) :: (← extractWorkers ws)
termination_by sizeOf ws
decreasing_by
  all_goals simp_wf
  all_goals have := sizeOf_list_pos ‹List Json›
  all_goals omega

/-- `w_copy = dict(w)`, with the tree of its `Plan` under `PlanTree` when that is a dict. --/
def copyWorker (w : Json) : Except String Json :=
  match _copied : w.toDict with
  | .error e => .error e
  | .ok wCopy =>
    match _h : wCopy.get "Plan" with
    | .obj plan => do return .obj (setItem wCopy "PlanTree" (← extractPlanTree plan))
    | _ => .ok (.obj wCopy)
termination_by sizeOf w
decreasing_by exact sizeOf_lt_of_worker _copied _h

end

/-! ### `summarize_plan` -/

/-- The `root` fields of the summary, as (summary key, plan key). --/
def rootFields : List (String × String) :=
  [("node_type", "Node Type"), ("relation", "Relation Name"), ("schema", "Schema"), ("alias", "Alias"),
    ("index_name", "Index Name"), ("plan_rows", "Plan Rows"), ("plan_width", "Plan Width"),
    ("total_cost", "Total Cost"), ("actual_rows", "Actual Rows"), ("actual_total_time_ms", "Actual Total Time"),
    ("actual_loops", "Actual Loops"), ("workers_planned", "Workers Planned"),
    ("workers_launched", "Workers Launched")]

/-- `jit_summary` for `jit = top.get("JIT")`. --/
def jitSummary : Json → Json
  | .obj jit =>
    .obj ([("Functions", Dict.get jit "Functions"), ("Options", Dict.get jit "Options")] ++
      match Dict.get? jit "Timing" with
      | some _ => [("Timing", Dict.get jit "Timing")]
      | none => [])
  | _ => .null

/-- `top = plan_json[0] if isinstance(plan_json, list) and plan_json else plan_json`. --/
def topOf : Json → Json
  | .arr (first :: _) => first
  | v => v

/-- The `try` block of `summarize_plan`. --/
def summarizePlanTry (planJson : Json) : Except String Json := do
  let top ← (topOf planJson).asDict
  let plan ← (top.getD "Plan" (.obj [])).asDict
  let buffers ← collectBuffers plan []
  let tree ← extractPlanTree plan
  return .obj [("planning_time_ms", top.get "Planning Time"), ("execution_time_ms", top.get "Execution Time"),
    ("root", .obj (rootFields.map fun (o, k) => (o, plan.get k))),
    ("buffers", (Json.obj (buffers.map fun (k, n) => (k, .int n))).or .null),
    ("jit", jitSummary (top.get "JIT")), ("complete_plan_tree", tree)]

/-- `summarize_plan(plan_json)`: an exception in the `try` block gives `{"error": ...}`. --/
def summarizePlan (planJson : Json) : Json :=
  match summarizePlanTry planJson with
  | .ok summary => summary
  | .error e => .obj [("error", .str ("Failed to summarize plan: " ++ e))]

end TeeSelector
