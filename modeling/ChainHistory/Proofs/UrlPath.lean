import ChainHistory.Proofs.PercentRoundTrip
import ChainHistory.Url.Reader

namespace ChainHistory.Url

open Text

/-- The parts of a path that stand for no name of their own. -/
def IsDots (part : List Char) : Prop := part = ['.'] ∨ part = ['.', '.']

/-- A path that can stand below another as it is: none of its characters ends it or needs an
escape, none of its parts is resolved away, and it does not begin with a slash. -/
structure Below (path : List Char) : Prop where
  chars : ∀ c ∈ path, c = '/' ∨ c = '%' ∨ Percent.isUnreserved c = true
  parts : ∀ p ∈ splitOn '/' path, ¬ IsDots p
  head : ∃ c rest, path = c :: rest ∧ c ≠ '/'

/-- One part of a path after those that are left of the parts before it. -/
def dotStep (done : List (List Char)) (part : List Char) : List (List Char) :=
  if part = ['.'] then done
  else if part = ['.', '.'] then (if done = [[]] then done else done.dropLast)
  else done ++ [part]

theorem dropDots_eq (path : List Char) :
    dropDots path = joinWith '/' ((splitOn '/' path).foldl dotStep []) := rfl

theorem dotStep_of_not_isDots {part : List Char} (h : ¬ IsDots part) (done : List (List Char)) :
    dotStep done part = done ++ [part] := by
  rw [IsDots, not_or] at h
  rw [dotStep, if_neg h.1, if_neg h.2]

theorem foldl_dotStep_of_plain {parts : List (List Char)} (h : ∀ p ∈ parts, ¬ IsDots p)
    (done : List (List Char)) : parts.foldl dotStep done = done ++ parts := by
  induction parts generalizing done with
  | nil => rw [List.foldl_nil, List.append_nil]
  | cons p parts ih =>
    have hp := h p List.mem_cons_self
    have hparts : ∀ q ∈ parts, ¬ IsDots q := fun q hq => h q (List.mem_cons_of_mem p hq)
    rw [List.foldl_cons, dotStep_of_not_isDots hp, ih hparts, List.append_assoc,
      List.singleton_append]

/-- What is left comes of the parts, and no dots are left. -/
theorem mem_dotStep {done : List (List Char)} {part p : List Char} (h : p ∈ dotStep done part) :
    p ∈ done ∨ (p = part ∧ ¬ IsDots p) := by
  unfold dotStep at h
  split at h
  · exact Or.inl h
  · split at h
    · split at h
      · exact Or.inl h
      · exact Or.inl (List.dropLast_subset done h)
    · rename_i hone htwo
      rcases List.mem_append.mp h with h | h
      · exact Or.inl h
      · have hp : p = part := List.mem_singleton.mp h
        exact Or.inr ⟨hp, by rw [hp, IsDots, not_or]; exact ⟨hone, htwo⟩⟩

theorem mem_foldl_dotStep {parts done : List (List Char)} {p : List Char}
    (h : p ∈ parts.foldl dotStep done) : p ∈ done ∨ (p ∈ parts ∧ ¬ IsDots p) := by
  induction parts generalizing done with
  | nil => exact Or.inl h
  | cons part parts ih =>
    rw [List.foldl_cons] at h
    rcases ih h with h | h
    · rcases mem_dotStep h with h | ⟨hp, hdots⟩
      · exact Or.inl h
      · exact Or.inr ⟨hp ▸ List.mem_cons_self, hdots⟩
    · exact Or.inr ⟨List.mem_cons_of_mem part h.1, h.2⟩

/-- Nothing takes the root away. -/
theorem head?_dotStep {done : List (List Char)} (h : done.head? = some []) (part : List Char) :
    (dotStep done part).head? = some [] := by
  cases done with
  | nil => exact absurd h (by decide)
  | cons root rest =>
    rw [List.head?_cons, Option.some.injEq] at h
    subst h
    -- Double dots take the last part, but not where the root is the only one.
    unfold dotStep
    split
    · rfl
    · split
      · split
        · rfl
        · rename_i hroot
          cases rest with
          | nil => exact absurd rfl hroot
          | cons p rest => rfl
      · rfl

theorem head?_foldl_dotStep {done : List (List Char)} (h : done.head? = some [])
    (parts : List (List Char)) : (parts.foldl dotStep done).head? = some [] := by
  induction parts generalizing done with
  | nil => exact h
  | cons part parts ih => exact ih (head?_dotStep h part)

/-- What a path becomes before all that lies below it, with a slash at its end. -/
def lead (path : List Char) : List Char :=
  match (splitOn '/' path).foldl dotStep [] with
  | [] => []
  | parts => joinWith '/' parts ++ ['/']

theorem dropDots_append {path : List Char} (h : ∀ p ∈ splitOn '/' path, ¬ IsDots p)
    (q : List Char) : dropDots (q ++ '/' :: path) = lead q ++ path := by
  rw [dropDots_eq, splitOn_append_sep, List.foldl_append, foldl_dotStep_of_plain h, lead]
  cases hdone : (splitOn '/' q).foldl dotStep [] with
  | nil => rw [List.nil_append, joinWith_splitOn, List.nil_append]
  | cons p done =>
    rw [joinWith_append (List.cons_ne_nil p done) (splitOn_ne_nil '/' path), joinWith_splitOn,
      List.append_assoc, List.singleton_append]

theorem lead_eq (q : List Char) : lead q = [] ∨ ∃ front, lead q = front ++ ['/'] := by
  rw [lead]
  split
  · exact Or.inl rfl
  · exact Or.inr ⟨_, rfl⟩

/-- A path from the root keeps its root. -/
theorem lead_of_rooted {q : List Char} (h : q = [] ∨ ∃ rest, q = '/' :: rest) :
    ∃ front, lead q = front ++ ['/'] := by
  have hroot : ((splitOn '/' q).foldl dotStep []).head? = some [] := by
    rcases h with rfl | ⟨rest, rfl⟩
    · rfl
    · rw [splitOn, if_pos rfl, List.foldl_cons]
      exact head?_foldl_dotStep rfl _
  rw [lead]
  split
  · rename_i hnil
    rw [hnil] at hroot
    exact absurd hroot (by decide)
  · exact ⟨_, rfl⟩

/-- Resolved once, a path holds no dots. -/
theorem not_isDots_of_mem_dropDots {path p : List Char} (h : p ∈ splitOn '/' (dropDots path)) :
    ¬ IsDots p := by
  rw [dropDots_eq] at h
  by_cases hnil : (splitOn '/' path).foldl dotStep [] = []
  · rw [hnil] at h
    have hp : p = [] := List.mem_singleton.mp h
    rw [hp, IsDots]
    decide
  · have hslash : ∀ p ∈ (splitOn '/' path).foldl dotStep [], '/' ∉ p := by
      intro p hp
      rcases mem_foldl_dotStep hp with hp | hp
      · exact absurd hp List.not_mem_nil
      · exact notMem_of_mem_splitOn hp.1
    rw [splitOn_joinWith hnil hslash] at h
    rcases mem_foldl_dotStep h with h | h
    · exact absurd h List.not_mem_nil
    · exact h.2

theorem dropDots_of_plain {path : List Char} (h : ∀ p ∈ splitOn '/' path, ¬ IsDots p) :
    dropDots path = path := by
  rw [dropDots_eq, foldl_dotStep_of_plain h, List.nil_append, joinWith_splitOn]

section Escapes

theorem keepsInPath_of_isUnreserved {c : Char} (h : Percent.isUnreserved c = true) :
    keepsInPath c = true :=
  Percent.of_isUnreserved (by decide) h

theorem keepsInQuery_of_isUnreserved {c : Char} (h : Percent.isUnreserved c = true) :
    keepsInQuery c = true :=
  Percent.of_isUnreserved (by decide) h

theorem keepsInPath_of_mem_encode {path : List Char} {c : Char}
    (h : c ∈ Percent.encodeUnless keepsInPath path) : keepsInPath c = true := by
  rcases Percent.mem_encodeUnless h with h | rfl | h
  · exact h
  · decide
  · exact keepsInPath_of_isUnreserved h

/-- Escaped once, a path needs no more escapes. -/
theorem encode_encode_path (path : List Char) :
    Percent.encodeUnless keepsInPath (Percent.encodeUnless keepsInPath path) =
      Percent.encodeUnless keepsInPath path :=
  Percent.encodeUnless_of_forall fun _ hc => keepsInPath_of_mem_encode hc

theorem encode_of_below {path : List Char} (h : Below path) :
    Percent.encodeUnless keepsInPath path = path := by
  apply Percent.encodeUnless_of_forall
  intro c hc
  rcases h.chars c hc with rfl | rfl | h
  · decide
  · decide
  · exact keepsInPath_of_isUnreserved h

/-- Escapes make no dots: a part that reads as dots was dots before. -/
theorem not_isDots_of_mem_encode {path p : List Char}
    (h : ∀ q ∈ splitOn '/' path, ¬ IsDots q)
    (hp : p ∈ splitOn '/' (Percent.encodeUnless keepsInPath path)) : ¬ IsDots p := by
  rw [Percent.splitOn_encodeUnless (by decide) (by decide) (by decide)] at hp
  obtain ⟨q, hq, rfl⟩ := List.mem_map.mp hp
  intro hdots
  have hpercent : '%' ∉ Percent.encodeUnless keepsInPath q := by
    rcases hdots with hdots | hdots <;> rw [hdots] <;> decide
  rw [Percent.encodeUnless_of_notMem hpercent] at hdots
  exact h q hq hdots

/-- A path in normal form is its own normal form. -/
theorem dropDots_normal (path : List Char) :
    dropDots (Percent.encodeUnless keepsInPath (dropDots path)) =
      Percent.encodeUnless keepsInPath (dropDots path) :=
  dropDots_of_plain fun _ hp =>
    not_isDots_of_mem_encode (fun _ hq => not_isDots_of_mem_dropDots hq) hp

end Escapes

end ChainHistory.Url
