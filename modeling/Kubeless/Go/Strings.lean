import Mathlib.Data.List.Basic

/-!
# The Go String and Path Functions

The kubeless sources build file names, volume paths and shell scripts with a handful of
functions of the Go standard library: `strings.Split`, `strings.Join`, `path.Join`,
`path.Clean`, `path.Base` and `filepath.Ext`. This module gives each of them as a
structurally recursive function on the character list of a `String`, following the Go
algorithm, so that the derivations built on them evaluate by `decide`.

Go strings are byte strings. Every string these functions see in the modelled code paths
(names, handlers, checksums, mount paths, scripts) is treated as a `String`; the function
payload, which may hold arbitrary bytes, is kept as `Bytes` in `Kubeless.Go.Encoding`.

## Main results

* `stringsSplit_ne_nil`: `strings.Split` never returns the empty list, so its first field
  always exists.
* `stringsSplit_of_not_mem`, `stringsSplit_append_sep`: the two equations that decide every
  split used by the derivations.
* `stringsJoin_cons_cons`: the unfolding of `strings.Join` used to read scripts.
* `stringsSplit_eq_pair`: `strings.Split` gives two fields exactly for a string with one
  separator, and they are its two sides.
-/

namespace Kubeless.Go

/-- Interpolated strings reduce to appends of their pieces. -/
@[simp] theorem toString_string (s : String) : toString s = s := rfl

/-! ### `strings.Split` and `strings.Join` -/

/-- `strings.Split` on a character list with a one-character separator: the fields between
consecutive separators, so `n` separators give `n + 1` fields. -/
def splitChars (sep : Char) : List Char → List (List Char)
  | [] => [[]]
  | c :: cs => if c = sep then [] :: splitChars sep cs else (splitChars sep cs).modifyHead (c :: ·)

/-- `strings.Split(s, sep)` for a one-character separator. `strings.Split("", sep)` is `[""]`. -/
def stringsSplit (s : String) (sep : Char) : List String :=
  (splitChars sep s.data).map String.mk

/-- `strings.Join(elems, sep)`. -/
def stringsJoin (sep : String) : List String → String
  | [] => ""
  | [a] => a
  | a :: b :: rest => a ++ sep ++ stringsJoin sep (b :: rest)

@[simp] theorem stringsJoin_nil (sep : String) : stringsJoin sep [] = "" := rfl

@[simp] theorem stringsJoin_singleton (sep a : String) : stringsJoin sep [a] = a := rfl

@[simp] theorem stringsJoin_cons_cons (sep a b : String) (rest : List String) :
    stringsJoin sep (a :: b :: rest) = a ++ sep ++ stringsJoin sep (b :: rest) := rfl

/-- Joining two non-empty lists puts one separator between their joins. -/
theorem stringsJoin_append (sep : String) {xs ys : List String} (hx : xs ≠ []) (hy : ys ≠ []) :
    stringsJoin sep (xs ++ ys) = stringsJoin sep xs ++ sep ++ stringsJoin sep ys := by
  induction xs with
  | nil => exact absurd rfl hx
  | cons x xs ih =>
      cases xs with
      | nil =>
          obtain ⟨y, ys, rfl⟩ := List.exists_cons_of_ne_nil hy
          simp
      | cons x' xs =>
          have := ih (List.cons_ne_nil _ _)
          simp only [List.cons_append] at this ⊢
          simp [this, String.append_assoc]

/-- A join of non-empty strings is empty only when there is nothing to join. -/
theorem stringsJoin_ne_empty {sep : String} {xs : List String} (h : ∀ x ∈ xs, x ≠ "")
    (hx : xs ≠ []) : stringsJoin sep xs ≠ "" := by
  obtain ⟨x, rest, rfl⟩ := List.exists_cons_of_ne_nil hx
  have hx0 := h x (List.mem_cons_self _ _)
  cases rest with
  | nil => simpa using hx0
  | cons y rest =>
      simp only [stringsJoin_cons_cons, ne_eq, String.ext_iff, String.data_append] at hx0 ⊢
      simp [hx0]

theorem length_pos_iff_ne_empty (s : String) : 0 < s.length ↔ s ≠ "" := by
  cases s with | mk l => cases l <;> simp [String.ext_iff]

theorem splitChars_ne_nil (sep : Char) (cs : List Char) : splitChars sep cs ≠ [] := by
  induction cs with
  | nil => simp [splitChars]
  | cons c cs ih =>
      unfold splitChars
      split
      · simp
      · obtain ⟨w, ws, h⟩ := List.exists_cons_of_ne_nil ih
        simp [h]

/-- **`strings.Split` always has a first field.** -/
theorem stringsSplit_ne_nil (s : String) (sep : Char) : stringsSplit s sep ≠ [] := by
  simp [stringsSplit, splitChars_ne_nil]

theorem splitChars_of_not_mem {sep : Char} {cs : List Char} (h : sep ∉ cs) :
    splitChars sep cs = [cs] := by
  induction cs with
  | nil => rfl
  | cons c cs ih =>
      simp only [List.mem_cons, not_or] at h
      simp [splitChars, Ne.symm h.1, ih h.2]

theorem splitChars_append_sep {sep : Char} {cs : List Char} (h : sep ∉ cs) (rest : List Char) :
    splitChars sep (cs ++ sep :: rest) = cs :: splitChars sep rest := by
  induction cs with
  | nil => simp [splitChars]
  | cons c cs ih =>
      simp only [List.mem_cons, not_or] at h
      simp [splitChars, Ne.symm h.1, ih h.2]

/-- The first field is everything before the first separator. -/
theorem head_splitChars (sep : Char) (cs : List Char) :
    (splitChars sep cs).head? = some (cs.takeWhile (· ≠ sep)) := by
  induction cs with
  | nil => rfl
  | cons c cs ih =>
      unfold splitChars
      by_cases h : c = sep
      · simp [h]
      · obtain ⟨w, ws, hw⟩ := List.exists_cons_of_ne_nil (splitChars_ne_nil sep cs)
        rw [hw] at ih ⊢
        simp_all

/-- A string without the separator is its own only field. -/
theorem stringsSplit_of_not_mem {s : String} {sep : Char} (h : sep ∉ s.data) :
    stringsSplit s sep = [s] := by
  simp [stringsSplit, splitChars_of_not_mem h]

/-- Splitting at the first separator: the field before it, then the fields of the rest. -/
theorem stringsSplit_append_sep {a : String} {sep : Char} (h : sep ∉ a.data) (b : String) :
    stringsSplit (a ++ String.singleton sep ++ b) sep = a :: stringsSplit b sep := by
  have : (a ++ String.singleton sep ++ b).data = a.data ++ sep :: b.data := by
    simp [String.singleton, String.push]
  simp [stringsSplit, this, splitChars_append_sep h]

/-- **A single field** is the whole input, and it holds no separator. -/
theorem splitChars_eq_singleton {sep : Char} {cs f : List Char} :
    splitChars sep cs = [f] ↔ sep ∉ cs ∧ f = cs := by
  refine ⟨fun h => ?_, fun ⟨h, hf⟩ => by rw [hf]; exact splitChars_of_not_mem h⟩
  induction cs generalizing f with
  | nil => simpa [splitChars, eq_comm] using h
  | cons c cs ih =>
      obtain ⟨w, ws, hw⟩ := List.exists_cons_of_ne_nil (splitChars_ne_nil sep cs)
      unfold splitChars at h
      split_ifs at h with hc
      · simp [hw] at h
      · simp only [hw, List.modifyHead_cons, List.cons.injEq] at h
        obtain ⟨rfl, rfl⟩ := h
        obtain ⟨hs, rfl⟩ := ih hw
        simp [hs, Ne.symm hc]

/-- **Exactly two fields** are the parts before and after the one separator. -/
theorem splitChars_eq_pair {sep : Char} {cs a b : List Char} :
    splitChars sep cs = [a, b] ↔ sep ∉ a ∧ sep ∉ b ∧ cs = a ++ sep :: b := by
  refine ⟨fun h => ?_, fun ⟨ha, hb, hcs⟩ => by
    rw [hcs, splitChars_append_sep ha, splitChars_of_not_mem hb]⟩
  induction cs generalizing a with
  | nil => simp [splitChars] at h
  | cons c cs ih =>
      obtain ⟨w, ws, hw⟩ := List.exists_cons_of_ne_nil (splitChars_ne_nil sep cs)
      unfold splitChars at h
      split_ifs at h with hc
      · simp only [List.cons.injEq] at h
        obtain ⟨rfl, hb⟩ := h
        obtain ⟨hs, rfl⟩ := splitChars_eq_singleton.mp hb
        simp [hs, hc]
      · simp only [hw, List.modifyHead_cons, List.cons.injEq] at h
        obtain ⟨rfl, rfl⟩ := h
        obtain ⟨hsw, hsb, rfl⟩ := ih hw
        simp [hsw, hsb, Ne.symm hc]

/-- `strings.Split` gives two fields exactly for `a ++ sep ++ b` with no separator in `a`
or `b`, and the fields are `a` and `b`. -/
theorem stringsSplit_eq_pair {s a b : String} {sep : Char} :
    stringsSplit s sep = [a, b] ↔
      sep ∉ a.data ∧ sep ∉ b.data ∧ s = a ++ String.singleton sep ++ b := by
  have hmap : ∀ l : List (List Char), l.map String.mk = [a, b] ↔ l = [a.data, b.data] := by
    intro l
    rcases l with _ | ⟨x, _ | ⟨y, _ | ⟨z, l⟩⟩⟩ <;> simp [String.ext_iff]
  rw [stringsSplit, hmap, splitChars_eq_pair, String.ext_iff]
  simp [String.singleton, String.push]

/-! ### `path.Clean`, `path.Join` and `path.Base` -/

/-- One element of `path.Clean`'s scan over the slash-separated elements of a path, on the
reversed list of elements kept so far: empty elements and `.` are dropped, `..` removes
the last kept element (or is kept, when nothing removable precedes it in a relative path),
and every other element is kept. -/
def cleanStep (rooted : Bool) (kept : List String) (elem : String) : List String :=
  if elem = "" ∨ elem = "." then kept
  else if elem = ".." then
    match kept with
    | top :: rest => if top = ".." then ".." :: kept else rest
    | [] => if rooted then [] else [".."]
  else elem :: kept

/-- `path.Clean(p)`: the shortest path equivalent to `p` by purely lexical processing. It
is `.` when nothing remains, and keeps a leading `/`. -/
def pathClean (p : String) : String :=
  let rooted := p.data.head? = some '/'
  let kept := ((stringsSplit p '/').foldl (cleanStep rooted) []).reverse
  let body := stringsJoin "/" kept
  let cleaned := if rooted then "/" ++ body else body
  if cleaned = "" then "." else cleaned

/-- `path.Join(elem...)`: the non-empty elements from the first non-empty one on, joined
with `/` and cleaned; the empty string when every element is empty. -/
def pathJoin : List String → String
  | [] => ""
  | e :: rest => if e = "" then pathJoin rest else pathClean (stringsJoin "/" (e :: rest))

/-- `path.Base(p)`: the last element of `p` after trailing slashes are removed; `.` for the
empty path and `/` for a path of slashes only. -/
def pathBase (p : String) : String :=
  if p = "" then "."
  else
    let trimmed := (p.data.reverse.dropWhile (· = '/')).reverse
    let last := (trimmed.reverse.takeWhile (· ≠ '/')).reverse
    if last = [] then "/" else String.mk last

/-- `filepath.Ext(p)` on a Unix system: the suffix of `p` from the final `.` of its last
element, or the empty string when that element has no `.`. -/
def filepathExt (p : String) : String :=
  let lastElem := p.data.reverse.takeWhile (· ≠ '/')
  if '.' ∈ lastElem then
    String.mk ('.' :: (lastElem.takeWhile (· ≠ '.')).reverse)
  else ""

example : stringsSplit "sha256:ab:c" ':' = ["sha256", "ab", "c"] := by decide
example : pathJoin ["/dependencies", "../x/./y.py"] = "/x/y.py" := by decide
example : pathBase "" = "." ∧ pathBase "/tmp/f.py/" = "f.py" := by decide
example : filepathExt "dir.v1/func.zip" = ".zip" ∧ filepathExt "dir.v1/func" = "" := by decide

end Kubeless.Go
