import Mathlib.Data.List.Basic

/-!
# Texts of tokens

Tokens whose texts are a prefix code, over any alphabet. A token whose first letter stands in no
text but at its beginning is found wherever its text occurs.
-/

namespace PrefixCode

variable {α τ : Type}

/-- No text is empty, and none is the beginning of another. -/
structure Code (text : τ → List α) : Prop where
  some : ∀ x, text x ≠ []
  unique : ∀ {x y s t}, text x ++ s = text y ++ t → x = y

/-- The text of some tokens. -/
def flat (text : τ → List α) (tokens : List τ) : List α := tokens.flatMap text

/-- The first letter of the token stands in no text but at its beginning. -/
def Marks (text : τ → List α) (d : τ) : Prop := ∀ c ∈ (text d).head?, ∀ x, c ∉ (text x).tail

variable {text : τ → List α} {tokens tokens' : List τ} {d : τ} {s t front : List α}

@[simp] theorem flat_nil : flat text [] = [] := rfl

@[simp] theorem flat_cons (x : τ) : flat text (x :: tokens) = text x ++ flat text tokens :=
  List.flatMap_cons

@[simp] theorem flat_append :
    flat text (tokens ++ tokens') = flat text tokens ++ flat text tokens' :=
  List.flatMap_append

theorem Code.split_first (code : Code text) (same : flat text tokens = text d ++ s) :
    ∃ rest, tokens = d :: rest ∧ flat text rest = s := by
  cases tokens with
  | nil => exact absurd (List.append_eq_nil_iff.mp same.symm).1 (code.some d)
  | cons x rest =>
    rw [flat_cons] at same
    obtain rfl := code.unique same
    exact ⟨rest, rfl, List.append_cancel_left same⟩

theorem Code.flat_injective (code : Code text) (same : flat text tokens = flat text tokens') :
    tokens = tokens' := by
  induction tokens generalizing tokens' with
  | nil =>
    cases tokens' with
    | nil => rfl
    | cons y rest =>
      rw [flat_cons] at same
      exact absurd (List.append_eq_nil_iff.mp same.symm).1 (code.some y)
  | cons x tokens ih =>
    rw [flat_cons] at same
    obtain ⟨rest, rfl, same'⟩ := code.split_first same.symm
    rw [ih same'.symm]

theorem Code.split (code : Code text) (marks : Marks text d)
    (same : flat text tokens = front ++ (text d ++ s)) :
    ∃ before after, tokens = before ++ d :: after ∧ flat text before = front ∧
      flat text after = s := by
  induction tokens generalizing front with
  | nil =>
    have empty := (List.append_eq_nil_iff.mp (List.append_eq_nil_iff.mp same.symm).2).1
    exact absurd empty (code.some d)
  | cons x tokens ih =>
    rw [flat_cons] at same
    rcases List.append_eq_append_iff.mp same with ⟨more, rfl, same'⟩ | ⟨more, whole, same'⟩
    · obtain ⟨before, after, rfl, rfl, rfl⟩ := ih same'
      exact ⟨x :: before, after, rfl, rfl, rfl⟩
    · -- The token begins within `x`, so at its beginning.
      cases front with
      | nil =>
        rw [List.nil_append] at whole
        rw [← whole] at same'
        have begins : flat text (x :: tokens) = text d ++ s := by
          rw [flat_cons]
          exact same'.symm
        obtain ⟨rest, is, rest_flat⟩ := code.split_first begins
        exact ⟨[], rest, is, rfl, rest_flat⟩
      | cons c front =>
        cases more with
        | nil =>
          rw [List.append_nil] at whole
          rw [List.nil_append] at same'
          obtain ⟨rest, rfl, rest_flat⟩ := code.split_first same'.symm
          exact ⟨[x], rest, rfl, by rw [flat_cons, flat_nil, List.append_nil, whole], rest_flat⟩
        | cons e more =>
          have first : e ∈ (text d).head? := by
            cases letters : text d with
            | nil => exact absurd letters (code.some d)
            | cons f letters' =>
              rw [letters, List.cons_append, List.cons_append] at same'
              rw [List.head?_cons, (List.cons.inj same').1]
              rfl
          refine absurd ?_ (marks e first x)
          rw [whole, List.cons_append, List.tail_cons]
          exact List.mem_append_right _ List.mem_cons_self

end PrefixCode
