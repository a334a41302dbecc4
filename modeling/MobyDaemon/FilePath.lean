import Mathlib

/-!
The `path/filepath` functions the VFS driver calls, on Unix, over the characters of a path.
`Clean` is embedded as its documented lexical rules applied to the `/`-separated elements
of the path: empty and `.` elements are dropped, `..` removes the real element before it,
is dropped at the root, and is kept at the front of a relative path. The output elements
are kept last-first, which is the stack that Go's output buffer and its `dotdot` index
describe. `Base`, `Join` and `Dir` follow their source lines directly.
-/
namespace MobyDaemon.FilePath

/-- One element of `Clean`'s loop, on the output elements so far (last first). -/
def cleanStep (rooted : Bool) (out : List (List Char)) (elem : List Char) :
    List (List Char) :=
  if elem = [] ∨ elem = ['.'] then out
  else if elem = ['.', '.'] then
    match out with
    | e :: rest => if e = ['.', '.'] then (if rooted then out else elem :: out) else rest
    | [] => if rooted then [] else [elem]
  else elem :: out

/-- The cleaned path of output elements `out` (last first). -/
def render (rooted : Bool) (out : List (List Char)) : List Char :=
  let s := (if rooted then ['/'] else []) ++ ['/'].intercalate out.reverse
  if s = [] then ['.'] else s

def clean (path : List Char) : List Char :=
  let rooted := path.head? = some '/'
  render rooted ((path.splitOn '/').foldl (cleanStep rooted) [])

def base (path : List Char) : List Char :=
  if path = [] then ['.']
  else
    let stripped := (path.reverse.dropWhile (· = '/')).reverse
    let last := (stripped.reverse.takeWhile (· ≠ '/')).reverse
    if last = [] then ['/'] else last

/-- `filepath.Join`: the elements from the first non-empty one, joined by `/` and cleaned. -/
def join : List (List Char) → List Char
  | [] => []
  | e :: es => if e = [] then join es else clean (['/'].intercalate (e :: es))

/-- `filepath.Dir`: the path up to its last separator, cleaned. -/
def dir (path : List Char) : List Char :=
  clean (path.reverse.dropWhile (· ≠ '/')).reverse

example : clean "a//b/./../../..".toList = "..".toList := by decide
example : clean "/../x/".toList = "/x".toList := by decide
example : base "a/..//".toList = "..".toList := by decide
example : join ["".toList, "dir".toList, "x".toList] = "dir/x".toList := by decide

theorem intercalate_append_singleton {xs : List (List Char)} (hxs : xs ≠ []) (e : List Char) :
    ['/'].intercalate (xs ++ [e]) = ['/'].intercalate xs ++ '/' :: e := by
  induction xs with
  | nil => exact absurd rfl hxs
  | cons x xs ih =>
      cases xs with
      | nil => simp [List.intercalate]
      | cons y ys =>
          simp only [List.cons_append, List.intercalate, List.intersperse_cons_cons,
            List.flatten_cons, List.append_assoc] at ih ⊢
          rw [ih (List.cons_ne_nil _ _)]

theorem splitOn_append_slash (x y : List Char) :
    (x ++ '/' :: y).splitOn '/' = x.splitOn '/' ++ y.splitOn '/' := by
  simp only [List.splitOn]
  induction x with
  | nil => simp
  | cons c x ih =>
      rw [List.cons_append, List.splitOnP_cons, List.splitOnP_cons, ih]
      split
      · rfl
      · obtain ⟨a, as, h⟩ := List.exists_cons_of_ne_nil (List.splitOnP_ne_nil (· == '/') x)
        simp [h]

/-- An element `Clean` keeps as it is: not empty, not `.` or `..`, and without a
separator. -/
def IsName (e : List Char) : Prop := e ≠ [] ∧ e ≠ ['.'] ∧ e ≠ ['.', '.'] ∧ '/' ∉ e

instance (e : List Char) : Decidable (IsName e) := inferInstanceAs (Decidable (_ ∧ _ ∧ _ ∧ _))

theorem splitOn_name {e : List Char} (he : IsName e) : e.splitOn '/' = [e] :=
  List.splitOnP_eq_single _ _ fun _ hc hsep => he.2.2.2 (beq_iff_eq.mp hsep ▸ hc)

@[simp] theorem cleanStep_name (rooted : Bool) (out : List (List Char)) {e : List Char}
    (he : IsName e) : cleanStep rooted out e = e :: out := by
  simp [cleanStep, he.1, he.2.1, he.2.2.1]

theorem render_cons (rooted : Bool) {out : List (List Char)}
    (hout : ['/'].intercalate out.reverse ≠ []) (e : List Char) :
    render rooted (e :: out) = render rooted out ++ '/' :: e := by
  have hrev : out.reverse ≠ [] := by rintro h; simp [h, List.intercalate] at hout
  cases rooted <;> simp [render, intercalate_append_singleton hrev, hout]

theorem intercalate_append_name_ne_nil (xs : List (List Char)) {e : List Char} (he : e ≠ []) :
    ['/'].intercalate (xs ++ [e]) ≠ [] := by
  rcases eq_or_ne xs [] with rfl | hxs
  · simpa [List.intercalate] using he
  · simp [intercalate_append_singleton hxs]

theorem head?_append_of_ne_nil {p : List Char} (hp : p ≠ []) (q : List Char) :
    (p ++ q).head? = p.head? := by
  obtain ⟨c, cs, rfl⟩ := List.exists_cons_of_ne_nil hp
  rfl

theorem clean_append_name {p : List Char} (hp : p ≠ []) {e : List Char} (he : IsName e) :
    clean (p ++ '/' :: e) =
      render (p.head? = some '/') (e :: (p.splitOn '/').foldl (cleanStep (p.head? = some '/')) []) := by
  simp only [clean, head?_append_of_ne_nil hp, splitOn_append_slash, splitOn_name he,
    List.foldl_append, List.foldl_cons, List.foldl_nil, cleanStep_name _ _ he]

theorem clean_append_two_names {p : List Char} (hp : p ≠ []) {n e : List Char} (hn : IsName n)
    (he : IsName e) : clean (p ++ '/' :: (n ++ '/' :: e)) = clean (p ++ '/' :: n) ++ '/' :: e := by
  have hpn : p ++ '/' :: n ≠ [] := by simp
  rw [show p ++ '/' :: (n ++ '/' :: e) = (p ++ '/' :: n) ++ '/' :: e by simp,
    clean_append_name hpn he, clean_append_name hp hn]
  simp only [head?_append_of_ne_nil hp, splitOn_append_slash, splitOn_name hn,
    List.foldl_append, List.foldl_cons, List.foldl_nil, cleanStep_name _ _ hn]
  exact render_cons _ (by simpa using intercalate_append_name_ne_nil _ hn.1) e

theorem intercalate_pair (a b : List Char) : ['/'].intercalate [a, b] = a ++ '/' :: b := by
  simp [List.intercalate]

theorem intercalate_triple (a b c : List Char) :
    ['/'].intercalate [a, b, c] = a ++ '/' :: (b ++ '/' :: c) := by
  simp [List.intercalate]

theorem clean_name {n : List Char} (hn : IsName n) : clean n = n := by
  have hhead : ¬n.head? = some '/' := fun h => hn.2.2.2 (List.mem_of_mem_head? h)
  simp [clean, splitOn_name hn, hhead, cleanStep_name _ _ hn, render, List.intercalate, hn.1]

theorem join_two_names (home : List Char) {n e : List Char} (hn : IsName n) (he : IsName e) :
    join [home, n, e] = join [home, n] ++ '/' :: e := by
  rcases eq_or_ne home [] with rfl | hhome
  · have hhead : ¬n.head? = some '/' := fun h => hn.2.2.2 (List.mem_of_mem_head? h)
    have hsingle : ['/'].intercalate [n] = n := by simp [List.intercalate]
    simp only [join, if_pos rfl, if_neg hn.1, intercalate_pair, hsingle,
      clean_append_name hn.1 he, clean_name hn, splitOn_name hn, hhead, decide_False,
      List.foldl_cons, List.foldl_nil, cleanStep_name _ _ hn]
    rw [render_cons false (by simpa [List.intercalate] using hn.1)]
    simp [render, List.intercalate, hn.1]
  · simp only [join, if_neg hhome, intercalate_triple, intercalate_pair,
      clean_append_two_names hhome hn he]

theorem base_isName {path : List Char}
    (h : base path ≠ ['.'] ∧ base path ≠ ['.', '.'] ∧ base path ≠ ['/']) : IsName (base path) := by
  obtain ⟨hdot, hdotdot, hslash⟩ := h
  by_cases hp : path = []
  · simp [base, hp] at hdot
  set last := ((path.reverse.dropWhile (· = '/')).reverse.reverse.takeWhile (· ≠ '/')).reverse
    with hlast
  have hbase : base path = if last = [] then ['/'] else last := by simp [base, hp, hlast]
  by_cases hl : last = []
  · simp [hbase, hl] at hslash
  rw [hbase, if_neg hl] at hdot hdotdot ⊢
  refine ⟨hl, hdot, hdotdot, fun hmem => ?_⟩
  have := List.mem_takeWhile_imp (List.mem_reverse.mp hmem)
  simp at this

/-!
`Clean`'s output elements are names stacked on a run of `..`, a run that only a relative
path keeps. Rendering such a stack and splitting the text again gives the stack back, so
cleaning a cleaned path changes nothing; and `Dir` of `p/n` for a name `n` is `Clean(p)`. -/

theorem slash_not_mem_of_mem_splitOn {xs l : List Char} (h : l ∈ xs.splitOn '/') : '/' ∉ l := by
  induction xs generalizing l with
  | nil => simp only [List.splitOn_nil, List.mem_singleton] at h; simp [h]
  | cons x xs ih =>
      simp only [List.splitOn, List.splitOnP_cons] at h ih
      obtain ⟨a, as, has⟩ := List.exists_cons_of_ne_nil (List.splitOnP_ne_nil (· == '/') xs)
      split at h
      · rcases List.mem_cons.mp h with rfl | h
        · simp
        · exact ih h
      · rw [has, List.modifyHead_cons] at h
        rcases List.mem_cons.mp h with rfl | h
        · have hx : x ≠ '/' := by simpa using ‹¬(x == '/') = true›
          simpa [Ne.symm hx] using ih (has ▸ List.mem_cons_self a as)
        · exact ih (has ▸ List.mem_cons_of_mem a h)

/-- The output elements `Clean` can hold, last first: names on top of a run of `..`, which a
rooted path never keeps. -/
def CleanStack (rooted : Bool) (out : List (List Char)) : Prop :=
  ∃ ns ds, out = ns ++ ds ∧ (∀ n ∈ ns, IsName n) ∧ (∀ e ∈ ds, e = ['.', '.']) ∧
    (rooted = true → ds = [])

theorem cleanStep_cleanStack {rooted : Bool} {out : List (List Char)} {e : List Char}
    (h : CleanStack rooted out) (he : '/' ∉ e) : CleanStack rooted (cleanStep rooted out e) := by
  obtain ⟨ns, ds, rfl, hns, hds, hr⟩ := h
  by_cases hskip : e = [] ∨ e = ['.']
  · simp only [cleanStep, if_pos hskip]; exact ⟨ns, ds, rfl, hns, hds, hr⟩
  by_cases hup : e = ['.', '.']
  · subst hup
    cases ns with
    | cons n ns =>
        have hn : n ≠ ['.', '.'] := (hns n (List.mem_cons_self _ _)).2.2.1
        simp only [cleanStep, List.cons_append, hn]
        exact ⟨ns, ds, rfl, fun m hm => hns m (List.mem_cons_of_mem _ hm), hds, hr⟩
    | nil =>
        cases ds with
        | nil =>
            cases rooted
            · rw [show cleanStep false ([] ++ []) ['.', '.'] = [] ++ [['.', '.']] by decide]
              exact ⟨[], _, rfl, by simp, by simp, by simp⟩
            · rw [show cleanStep true ([] ++ []) ['.', '.'] = [] ++ [] by decide]
              exact ⟨[], [], rfl, by simp, by simp, fun _ => rfl⟩
        | cons e ds =>
            obtain rfl := hds e (List.mem_cons_self _ _)
            cases rooted
            · simp only [cleanStep]
              exact ⟨[], _ :: _ :: ds, rfl, by simp, List.forall_mem_cons.mpr ⟨rfl, hds⟩, by simp⟩
            · exact absurd (hr rfl) (List.cons_ne_nil _ _)
  · simp only [cleanStep, if_neg hskip, if_neg hup]
    have hname : IsName e := ⟨fun h => hskip (.inl h), fun h => hskip (.inr h), hup, he⟩
    exact ⟨e :: ns, ds, rfl, List.forall_mem_cons.mpr ⟨hname, hns⟩, hds, hr⟩

theorem cleanStack_foldl (rooted : Bool) {L : List (List Char)} (hL : ∀ e ∈ L, '/' ∉ e)
    {acc : List (List Char)} (h : CleanStack rooted acc) :
    CleanStack rooted (L.foldl (cleanStep rooted) acc) := by
  induction L generalizing acc with
  | nil => exact h
  | cons e L ih =>
      exact ih (fun x hx => hL x (List.mem_cons_of_mem _ hx))
        (cleanStep_cleanStack h (hL e (List.mem_cons_self _ _)))

theorem foldl_cleanStep_names (rooted : Bool) {L : List (List Char)} (hL : ∀ n ∈ L, IsName n)
    (acc : List (List Char)) : L.foldl (cleanStep rooted) acc = L.reverse ++ acc := by
  induction L generalizing acc with
  | nil => rfl
  | cons n L ih =>
      rw [List.foldl_cons, cleanStep_name _ _ (hL n (List.mem_cons_self _ _)),
        ih (fun m hm => hL m (List.mem_cons_of_mem _ hm))]
      simp

theorem foldl_cleanStep_dotdots {L acc : List (List Char)} (hL : ∀ e ∈ L, e = ['.', '.'])
    (hacc : ∀ e ∈ acc, e = ['.', '.']) : L.foldl (cleanStep false) acc = L.reverse ++ acc := by
  induction L generalizing acc with
  | nil => rfl
  | cons e L ih =>
      obtain rfl := hL e (List.mem_cons_self _ _)
      have hstep : cleanStep false acc ['.', '.'] = ['.', '.'] :: acc := by
        cases acc with
        | nil => decide
        | cons a acc => obtain rfl := hacc a (List.mem_cons_self _ _); simp [cleanStep]
      have hacc' : ∀ x ∈ ['.', '.'] :: acc, x = ['.', '.'] := List.forall_mem_cons.mpr ⟨rfl, hacc⟩
      rw [List.foldl_cons, hstep, ih (fun m hm => hL m (List.mem_cons_of_mem _ hm)) hacc']
      simp

theorem prefix_intercalate_cons (l : List Char) (ls : List (List Char)) :
    l <+: ['/'].intercalate (l :: ls) := by
  cases ls with
  | nil => simp [List.intercalate]
  | cons m ms =>
      exact ⟨'/' :: ['/'].intercalate (m :: ms), by simp [List.intercalate, List.intersperse_cons_cons]⟩

/-- Splitting a rendered stack of output elements and folding it again gives the stack back,
with the same rootedness. -/
theorem render_reparse {rooted : Bool} {out : List (List Char)} (h : CleanStack rooted out) :
    decide ((render rooted out).head? = some '/') = rooted ∧
      ((render rooted out).splitOn '/').foldl (cleanStep rooted) [] = out := by
  obtain ⟨ns, ds, hout, hns, hds, hr⟩ := h
  have helem : ∀ e ∈ out.reverse, e ≠ [] ∧ '/' ∉ e := by
    intro e he
    rw [List.mem_reverse, hout, List.mem_append] at he
    rcases he with he | he
    · exact ⟨(hns e he).1, (hns e he).2.2.2⟩
    · rw [hds e he]; decide
  cases hf : out.reverse with
  | nil => rw [List.reverse_eq_nil_iff.mp hf]; cases rooted <;> decide
  | cons f fs =>
  have hf' := helem f (by simp [hf])
  obtain ⟨t, ht⟩ := prefix_intercalate_cons f fs
  have hbody : ['/'].intercalate out.reverse ≠ [] := by
    rw [hf, ← ht]; simp [hf'.1]
  have hr' : render rooted out = (if rooted then ['/'] else []) ++ ['/'].intercalate out.reverse := by
    simp [render, hbody]
  have hsplit : (['/'].intercalate out.reverse).splitOn '/' = out.reverse :=
    List.splitOn_intercalate _ '/' (fun l hl => (helem l hl).2) (by simp [hf])
  have hhead : decide ((render rooted out).head? = some '/') = rooted := by
    cases rooted
    · rw [hr', if_neg Bool.false_ne_true, List.nil_append, hf, ← ht,
        head?_append_of_ne_nil hf'.1]
      simpa using fun hh => hf'.2 (List.mem_of_mem_head? hh)
    · simp [hr']
  have hfold : ((render rooted out).splitOn '/').foldl (cleanStep rooted) [] = out := by
    cases rooted
    · rw [hr', if_neg Bool.false_ne_true, List.nil_append, hsplit, hout, List.reverse_append,
        List.foldl_append, @foldl_cleanStep_dotdots ds.reverse [] (fun e he => hds e (List.mem_reverse.mp he))
          (fun _ h => absurd h (List.not_mem_nil _)),
        @foldl_cleanStep_names false ns.reverse (fun n hn => hns n (List.mem_reverse.mp hn))]
      simp
    · obtain rfl := hr rfl
      rw [hr', if_pos rfl, show ['/'] ++ ['/'].intercalate out.reverse =
          [] ++ '/' :: ['/'].intercalate out.reverse from rfl, splitOn_append_slash, hsplit,
        List.splitOn_nil, List.foldl_append, hout, List.append_nil,
        show List.foldl (cleanStep true) [] [[]] = [] by decide,
        @foldl_cleanStep_names true ns.reverse (fun n hn => hns n (List.mem_reverse.mp hn))]
      simp
  exact ⟨hhead, hfold⟩

theorem clean_eq (path : List Char) :
    clean path = render (decide (path.head? = some '/'))
      ((path.splitOn '/').foldl (cleanStep (decide (path.head? = some '/'))) []) := rfl

theorem clean_render {rooted : Bool} {out : List (List Char)} (h : CleanStack rooted out) :
    clean (render rooted out) = render rooted out := by
  obtain ⟨hhead, hfold⟩ := render_reparse h
  rw [clean_eq, hhead, hfold]

theorem cleanStack_splitOn (path : List Char) :
    CleanStack (decide (path.head? = some '/'))
      ((path.splitOn '/').foldl (cleanStep (decide (path.head? = some '/'))) []) :=
  cleanStack_foldl _ (fun _ he => slash_not_mem_of_mem_splitOn he)
    ⟨[], [], rfl, by simp, by simp, fun _ => rfl⟩

/-- `Clean` is idempotent: a cleaned path is its own cleaning. -/
@[simp] theorem clean_clean (path : List Char) : clean (clean path) = clean path :=
  clean_render (cleanStack_splitOn path)

theorem clean_append_slash {p : List Char} (hp : p ≠ []) : clean (p ++ ['/']) = clean p := by
  simp only [clean, head?_append_of_ne_nil hp]
  rw [show p ++ ['/'] = p ++ '/' :: [] from rfl, splitOn_append_slash, List.splitOn_nil,
    List.foldl_append]
  simp [cleanStep]

theorem dropWhile_ne_slash {l : List Char} (hl : '/' ∉ l) (rest : List Char) :
    (l ++ '/' :: rest).dropWhile (· ≠ '/') = '/' :: rest := by
  induction l with
  | nil => simp
  | cons c l ih =>
      have hc : c ≠ '/' := fun h => hl (h ▸ List.mem_cons_self _ _)
      rw [List.cons_append, List.dropWhile_cons_of_pos (by simpa using hc)]
      exact ih (fun h => hl (List.mem_cons_of_mem _ h))

theorem dir_append_name {p n : List Char} (hp : p ≠ []) (hn : '/' ∉ n) :
    dir (p ++ '/' :: n) = clean p := by
  have hrev : (p ++ '/' :: n).reverse = n.reverse ++ '/' :: p.reverse := by simp
  rw [dir, hrev, dropWhile_ne_slash (by simpa using hn), List.reverse_cons, List.reverse_reverse,
    clean_append_slash hp]

@[simp] theorem render_ne_nil (rooted : Bool) (out : List (List Char)) : render rooted out ≠ [] := by
  by_cases h : (if rooted then ['/'] else []) ++ ['/'].intercalate out.reverse = []
  · rw [render, if_pos h]; simp
  · rw [render, if_neg h]; exact h

@[simp] theorem clean_ne_nil (path : List Char) : clean path ≠ [] := render_ne_nil _ _

/-- Cleaning `Clean(p)/q` is cleaning `p/q`: a cleaned prefix can be cleaned again with what
follows it. -/
theorem clean_clean_append {p : List Char} (hp : p ≠ []) (q : List Char) :
    clean (clean p ++ '/' :: q) = clean (p ++ '/' :: q) := by
  obtain ⟨hhead, hfold⟩ := render_reparse (cleanStack_splitOn p)
  have hhead' : decide ((clean p).head? = some '/') = decide (p.head? = some '/') := hhead
  have hfold' : ((clean p).splitOn '/').foldl (cleanStep (decide (p.head? = some '/'))) [] =
      (p.splitOn '/').foldl (cleanStep (decide (p.head? = some '/'))) [] := hfold
  rw [clean_eq (clean p ++ _), clean_eq (p ++ _), head?_append_of_ne_nil (clean_ne_nil p),
    head?_append_of_ne_nil hp, hhead', splitOn_append_slash, splitOn_append_slash,
    List.foldl_append, List.foldl_append, hfold']

theorem clean_join_name (home : List Char) {n : List Char} (hn : IsName n) :
    clean (join [home, n]) = join [home, n] := by
  rcases eq_or_ne home [] with rfl | hhome
  · simp only [join, if_pos rfl, if_neg hn.1]; exact clean_clean _
  · simp only [join, if_neg hhome]; exact clean_clean _

@[simp] theorem join_name_ne_nil (home : List Char) {n : List Char} (hn : IsName n) :
    join [home, n] ≠ [] := by
  rw [← clean_join_name home hn]; exact clean_ne_nil _

/-- `Join(Join(a, b), c)` is `Join(a, b, c)`, whatever the three elements hold. -/
theorem join_join (a b c : List Char) : join [join [a, b], c] = join [a, b, c] := by
  rcases eq_or_ne a [] with rfl | ha
  · rcases eq_or_ne b [] with rfl | hb
    · simp [join]
    · have hjb : join [[], b] = clean b := by simp [join, hb, List.intercalate]
      rw [hjb]
      simp only [join, if_pos rfl, if_neg hb, if_neg (clean_ne_nil b), intercalate_pair]
      exact clean_clean_append hb c
  · have hj : join [a, b] = clean (a ++ '/' :: b) := by
      simp only [join, if_neg ha, intercalate_pair]
    rw [hj]
    simp only [join, if_neg (clean_ne_nil _), if_neg ha, intercalate_pair, intercalate_triple]
    rw [clean_clean_append (by simp) c]
    simp

end MobyDaemon.FilePath
