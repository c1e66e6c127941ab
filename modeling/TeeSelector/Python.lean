import Mathlib.Data.Rat.Defs

/-! Python's built-in behaviour that the scripts rely on: the whitespace of `str.isspace` and `str.strip`,
    the Unicode case tables behind `str.lower` and `str.upper`, and the values that `json.loads` builds,
    with the dict, truthiness and iteration rules the scripts apply to them. A Python `str` is a
    `List Char` of code points, a Python float an exact rational. -/

namespace TeeSelector

/-! ### Strings -/

/-- `c.isspace()` for one code point: exactly the characters Python's `str.isspace` accepts. --/
def isSpace (c : Char) : Bool :=
  let n := c.toNat
  (0x09 ≤ n && n ≤ 0x0D) || (0x1C ≤ n && n ≤ 0x20) || n == 0x85 || n == 0xA0 || n == 0x1680 ||
    (0x2000 ≤ n && n ≤ 0x200A) || n == 0x2028 || n == 0x2029 || n == 0x202F || n == 0x205F ||
    n == 0x3000

/-- `s.strip()`: the text without its leading and trailing whitespace. --/
def strip (s : List Char) : List Char :=
  ((s.dropWhile isSpace).reverse.dropWhile isSpace).reverse

/-- `os.path.join(a, b)` on POSIX: `b` when it is absolute, else `a` and `b` with one `/` between them. --/
def joinPath (a b : List Char) : List Char :=
  if b.head? = some '/' then b
  else if a.isEmpty || a.getLast? = some '/' then a ++ b
  else a ++ '/' :: b

theorem Char.toNat_ofNat_of_lt {m : Nat} (h : m < 0xD800) : (Char.ofNat m).toNat = m := by
  have valid : m.isValidChar := Or.inl h
  simp [Char.ofNat, valid, Char.ofNatAux, Char.toNat, UInt32.toNat, UInt32.ofNat']

theorem Char.eq_of_toNat_eq {c d : Char} (h : c.toNat = d.toNat) : c = d := by
  rw [← Char.ofNat_toNat c, h, Char.ofNat_toNat]

theorem Char.toNat_toUpper (c : Char) :
    c.toUpper.toNat = if 97 ≤ c.toNat ∧ c.toNat ≤ 122 then c.toNat - 32 else c.toNat := by
  by_cases h : 97 ≤ c.toNat ∧ c.toNat ≤ 122
  · simp only [Char.toUpper, ge_iff_le, h, and_self, ite_true]
    exact Char.toNat_ofNat_of_lt (by omega)
  · simp only [Char.toUpper, ge_iff_le, h, ite_false]

theorem Char.toNat_toLower (c : Char) :
    c.toLower.toNat = if 65 ≤ c.toNat ∧ c.toNat ≤ 90 then c.toNat + 32 else c.toNat := by
  by_cases h : 65 ≤ c.toNat ∧ c.toNat ≤ 90
  · simp only [Char.toLower, ge_iff_le, h, and_self, ite_true]
    exact Char.toNat_ofNat_of_lt (by omega)
  · simp only [Char.toLower, ge_iff_le, h, ite_false]

/-- A printable ASCII character other than the space is no space. --/
theorem isSpace_of_printable {c : Char} (lo : 33 ≤ c.toNat) (hi : c.toNat ≤ 126) : isSpace c = false := by
  simp only [isSpace, Bool.or_eq_false_iff, Bool.and_eq_false_imp, decide_eq_true_eq, decide_eq_false_iff_not,
    beq_eq_false_iff_ne, ne_eq]
  omega

/-- A character whose ASCII lower case is a lower-case letter is no space. --/
theorem isSpace_of_toLower {c : Char} (h : 97 ≤ c.toLower.toNat ∧ c.toLower.toNat ≤ 122) : isSpace c = false := by
  rw [Char.toNat_toLower] at h
  split_ifs at h <;> exact isSpace_of_printable (by omega) (by omega)

theorem Char.toUpper_toUpper (c : Char) : c.toUpper.toUpper = c.toUpper := by
  apply Char.eq_of_toNat_eq
  rw [Char.toNat_toUpper, Char.toNat_toUpper]
  split_ifs <;> omega

/-! ### Case tables -/

/-- Python's case tables for one code point, `c.lower()` and `c.upper()`. The Unicode database is not
    part of the scripts, so it is a parameter of the model; the fields are the facts of it that the
    proofs use, each true of Python's tables: on ASCII they are the ASCII maps, and `upper` is
    idempotent, never empty, keeps a non-space character free of spaces and gives a bracket only for
    that bracket. --/
structure CaseMap where
  lower : Char → List Char
  upper : Char → List Char
  lower_ascii : ∀ c : Char, c.toNat < 128 → lower c = [c.toLower]
  upper_ascii : ∀ c : Char, c.toNat < 128 → upper c = [c.toUpper]
  upper_upper : ∀ c, (upper c).flatMap upper = upper c
  upper_ne_nil : ∀ c, upper c ≠ []
  upper_space : ∀ c, isSpace c = false → ∀ d ∈ upper c, isSpace d = false
  upper_bracket : ∀ c, ∀ d ∈ upper c, d = '(' ∨ d = ')' → d = c

namespace CaseMap

/-- `s.lower()`, one code point at a time. --/
def lowerStr (cm : CaseMap) (s : List Char) : List Char := s.flatMap cm.lower

/-- `s.upper()`, one code point at a time. --/
def upperStr (cm : CaseMap) (s : List Char) : List Char := s.flatMap cm.upper

/-- The ASCII part of Python's tables, leaving every other character as it is. --/
def ascii : CaseMap where
  lower c := [c.toLower]
  upper c := [c.toUpper]
  lower_ascii _ _ := rfl
  upper_ascii _ _ := rfl
  upper_upper c := by simp [Char.toUpper_toUpper]
  upper_ne_nil _ := List.cons_ne_nil _ _
  upper_space c hc d hd := by
    have h := Char.toNat_toUpper c
    rw [List.mem_singleton.mp hd]
    split_ifs at h
    · exact isSpace_of_printable (by omega) (by omega)
    · rwa [Char.eq_of_toNat_eq h]
  upper_bracket c d hd hb := by
    rw [List.mem_singleton.mp hd] at hb ⊢
    have h := Char.toNat_toUpper c
    split_ifs at h
    · have opening : '('.toNat = 40 := rfl
      have closing : ')'.toNat = 41 := rfl
      rcases hb with hb | hb <;> rw [hb] at h <;> omega
    · exact Char.eq_of_toNat_eq h

end CaseMap

/-! ### Decoded JSON -/

/-- A value that `json.loads` builds: `None`, a bool, an int, a float, a str, a list or a dict. A dict is
    the list of its entries, and a key stands for its first entry. --/
inductive Json where
  | null
  | bool (b : Bool)
  | int (n : Int)
  | float (x : ℚ)
  | str (s : String)
  | arr (xs : List Json)
  | obj (kvs : List (String × Json))
deriving Inhabited, Repr

/-- A Python dict with string keys. --/
abbrev Dict := List (String × Json)

namespace Json

/-- `type(v).__name__`. --/
def typeName : Json → String
  | null => "NoneType"
  | bool _ => "bool"
  | int _ => "int"
  | float _ => "float"
  | str _ => "str"
  | arr _ => "list"
  | obj _ => "dict"

/-- `bool(v)`: `None`, `False`, zero and empty containers are false. --/
def truthy : Json → Bool
  | null => false
  | bool b => b
  | int n => n != 0
  | float x => x != 0
  | str s => !s.isEmpty
  | arr xs => !xs.isEmpty
  | obj kvs => !kvs.isEmpty

/-- The value as a number, when `isinstance(v, (int, float))` holds (a bool is an int). --/
def number? : Json → Option ℚ
  | bool b => some (if b then 1 else 0)
  | int n => some n
  | float x => some x
  | _ => none

/-- `int(x)` of a number: the integer part, rounded toward zero. --/
def truncate (x : ℚ) : Int := if 0 ≤ x then x.floor else x.ceil

/-- The receiver of a method call `v.get(...)`: a dict, or `AttributeError` for any other value. --/
def asDict : Json → Except String Dict
  | obj kvs => .ok kvs
  | v => .error ("'" ++ v.typeName ++ "' object has no attribute 'get'")

/-- `for x in v`: a list gives its elements, a dict its keys, a str its characters; any other value raises
    `TypeError`. --/
def iter : Json → Except String (List Json)
  | arr xs => .ok xs
  | obj kvs => .ok (kvs.map fun kv => str kv.1)
  | str s => .ok (s.toList.map fun c => str (String.singleton c))
  | v => .error ("'" ++ v.typeName ++ "' object is not iterable")

/-- The elements that are dicts: what `isinstance(x, dict)` keeps. --/
def dicts : List Json → List Dict
  | [] => []
  | obj kvs :: xs => kvs :: dicts xs
  | _ :: xs => dicts xs

/-- `a or b`. --/
def or (a b : Json) : Json := if a.truthy then a else b

end Json

/-- `d[k] = v` on a dict with string keys: a key already present keeps its place, a new one goes last. --/
def setItem {α : Type} : List (String × α) → String → α → List (String × α)
  | [], k, v => [(k, v)]
  | (k', v') :: d, k, v => if k' = k then (k, v) :: d else (k', v') :: setItem d k v

namespace Dict

/-- `d[k]`, or `none` where `k in d` fails. --/
def get? (d : Dict) (k : String) : Option Json := d.lookup k

/-- `d.get(k)`: `None` for a missing key. --/
def get (d : Dict) (k : String) : Json := (d.get? k).getD .null

theorem lookup_cons_of_ne {β : Type} {es : List (String × β)} {a k : String} {b : β} (h : a ≠ k) :
    ((k, b) :: es).lookup a = es.lookup a := by
  rw [List.lookup_cons, beq_false_of_ne h]

/-- `d.get(k, default)`. --/
def getD (d : Dict) (k : String) (dflt : Json) : Json := (d.get? k).getD dflt

theorem sizeOf_lt_of_get? {d : Dict} {k : String} {v : Json} (h : d.get? k = some v) :
    sizeOf v < sizeOf d := by
  induction d with
  | nil => simp [get?] at h
  | cons kv d ih =>
    obtain ⟨a, b⟩ := kv
    simp only [get?, List.lookup_cons] at h
    split at h
    · cases h
      simp
      omega
    · have := ih h
      simp
      omega

end Dict

namespace Json

@[simp] theorem dicts_map_str {α : Type} (f : α → String) (l : List α) :
    dicts (l.map fun a => str (f a)) = [] := by
  induction l <;> simp_all [dicts]

/-- What iterating a value yields: characters or keys as `str`s, or the elements of a list. --/
theorem mem_iter {v y : Json} {xs : List Json} (h : v.iter = .ok xs) (hy : y ∈ xs) :
    (∃ s, y = str s) ∨ ∃ ys, v = arr ys ∧ y ∈ ys := by
  cases v <;> simp only [iter, Except.ok.injEq, reduceCtorEq] at h <;> subst h
  case arr xs => exact .inr ⟨xs, rfl, hy⟩
  all_goals simp only [List.mem_map] at hy; obtain ⟨_, _, rfl⟩ := hy; exact .inl ⟨_, rfl⟩

/-! ### `dict(v)` -/

/-- Element number `i` of the iterable given to `dict`, as a key and a value: it must itself be iterable, of
    length 2, with a `str` key (a list or a dict is unhashable; a `Dict` holds no other key). --/
def pairOf (i : Nat) (x : Json) : Except String (String × Json) :=
  match x.iter with
  | .error _ => .error ("cannot convert dictionary update sequence element #" ++ toString i ++ " to a sequence")
  | .ok [str k, v] => .ok (k, v)
  | .ok [arr _, _] => .error "unhashable type: 'list'"
  | .ok [obj _, _] => .error "unhashable type: 'dict'"
  | .ok [_, _] => .error "dict keys other than str are not modelled"
  | .ok ys => .error ("dictionary update sequence element #" ++ toString i ++ " has length " ++
      toString ys.length ++ "; 2 is required")

/-- The entries `dict` builds from the elements `xs`, numbered from `i`, on top of `d`. --/
def dictEntries : Nat → List Json → Dict → Except String Dict
  | _, [], d => .ok d
  | i, x :: xs, d =>
    match pairOf i x with
    | .error e => .error e
    | .ok (k, v) => dictEntries (i + 1) xs (setItem d k v)

/-- `dict(v)`: a copy of a dict, or the entries of an iterable of pairs. --/
def toDict : Json → Except String Dict
  | obj kvs => .ok kvs
  | v =>
    match v.iter with
    | .error e => .error e
    | .ok xs => dictEntries 0 xs []

theorem mem_setItem {α : Type} {d : List (String × α)} {k : String} {v : α} {kv : String × α}
    (h : kv ∈ setItem d k v) : kv ∈ d ∨ kv = (k, v) := by
  induction d with
  | nil => simpa [setItem] using h
  | cons e d ih =>
    simp only [setItem] at h
    split at h <;> simp only [List.mem_cons] at h
    · rcases h with rfl | h
      · exact .inr rfl
      · exact .inl (List.mem_cons_of_mem _ h)
    · rcases h with rfl | h
      · exact .inl (List.mem_cons_self _ _)
      · exact (ih h).imp_left (List.mem_cons_of_mem _)

theorem mem_of_pairOf {i : Nat} {x y : Json} {k : String} (h : pairOf i x = .ok (k, y)) :
    ∃ ys, x.iter = .ok ys ∧ y ∈ ys := by
  unfold pairOf at h
  split at h <;> cases h
  next read => exact ⟨_, read, List.mem_cons_of_mem _ (List.mem_singleton_self y)⟩

theorem mem_dictEntries {i : Nat} {xs : List Json} {d d' : Dict} (h : dictEntries i xs d = .ok d')
    {kv : String × Json} (m : kv ∈ d') : kv ∈ d ∨ ∃ x ∈ xs, ∃ ys, x.iter = .ok ys ∧ kv.2 ∈ ys := by
  induction xs generalizing i d with
  | nil => cases h; exact .inl m
  | cons x xs ih =>
    simp only [dictEntries] at h
    split at h
    · cases h
    next k y pair =>
      rcases ih h with m | ⟨x', mem, found⟩
      · rcases mem_setItem m with m | rfl
        · exact .inl m
        · exact .inr ⟨x, List.mem_cons_self _ _, mem_of_pairOf pair⟩
      · exact .inr ⟨x', List.mem_cons_of_mem _ mem, found⟩

/-- A value in `dict(v)` is a `str` or smaller than `v`. --/
theorem sizeOf_of_toDict {v : Json} {d : Dict} (h : v.toDict = .ok d) {kv : String × Json} (hkv : kv ∈ d) :
    (∃ s, kv.2 = str s) ∨ sizeOf kv.2 < sizeOf v := by
  unfold toDict at h
  split at h
  next kvs =>
    cases h
    have := List.sizeOf_lt_of_mem hkv
    obtain ⟨k, y⟩ := kv
    simp only [obj.sizeOf_spec, Prod.mk.sizeOf_spec] at this ⊢
    exact .inr (by omega)
  next =>
    split at h
    · cases h
    next xs read =>
      rcases mem_dictEntries h hkv with m | ⟨x, mem, ys, inner, found⟩
      · cases m
      rcases mem_iter inner found with str | ⟨zs, rfl, deep⟩
      · exact .inl str
      rcases mem_iter read mem with ⟨_, bad⟩ | ⟨ws, rfl, outer⟩
      · cases bad
      have := List.sizeOf_lt_of_mem deep
      have := List.sizeOf_lt_of_mem outer
      simp only [arr.sizeOf_spec] at *
      exact .inr (by omega)

end Json

end TeeSelector
