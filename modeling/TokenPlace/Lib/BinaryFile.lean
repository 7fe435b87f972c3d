import Mathlib
import TokenPlace.Lib.Method

/-!
# Reading a binary file

A file that is open for reading, its `read`, `tell` and `seek`, and integers in little-endian
bytes.

`Reads m G` says what a reader accepts: from every position, `m` returns `a` exactly when what
lies ahead begins with bytes that the grammar `G` gives to `a`, and it stops behind them. The
lemmas build this for a sequence, a check and a loop out of the parts. `Fails m bs P` says that
`m` raises an exception that satisfies `P` wherever `bs` lies ahead.
-/

/-- A file that is open for reading. -/
structure BinaryFile where
  contents : List UInt8
  seekable : Bool
  position : Nat
  /-- `read` has given out no byte from here on. -/
  consumed : Nat

namespace BinaryFile

variable {ε α β : Type}

/-- `open(path, 'rb')`. -/
def opened (contents : List UInt8) (seekable : Bool) : BinaryFile := ⟨contents, seekable, 0, 0⟩

/-- What lies ahead of the position. -/
def ahead (f : BinaryFile) : List UInt8 := f.contents.drop f.position

/-- `f.read(n)`: as many bytes as there are. -/
def read (n : Nat) : Method BinaryFile ε (List UInt8) := fun f =>
  let stop := f.position + (f.ahead.take n).length
  (.ok (f.ahead.take n), { f with position := stop, consumed := max f.consumed stop })

/-- `f.tell()`. -/
def tell : Method BinaryFile ε Nat := fun f => (.ok f.position, f)

/-- `f.seek(0, os.SEEK_END)`. -/
def seekEnd : Method BinaryFile ε Nat := fun f =>
  (.ok f.contents.length, { f with position := f.contents.length })

/-- `f.seek(target, os.SEEK_SET)`. -/
def seekSet (target : Nat) : Method BinaryFile ε Unit := fun f =>
  (.ok (), { f with position := target })

/-! ## Little-endian integers -/

/-- `int.from_bytes(bs, 'little', signed=False)`. -/
def fromBytes (bs : List UInt8) : Nat := Nat.ofDigits 256 (bs.map UInt8.toNat)

/-- `n.to_bytes(w, 'little')`. -/
def toBytes : Nat → Nat → List UInt8
  | 0, _ => []
  | w + 1, n => UInt8.ofNat (n % 256) :: toBytes w (n / 256)

@[simp] theorem toBytes_length (w n : Nat) : (toBytes w n).length = w := by
  induction w generalizing n with
  | zero => rfl
  | succ w ih => simp [toBytes, ih]

theorem fromBytes_cons (b : UInt8) (bs : List UInt8) :
    fromBytes (b :: bs) = b.toNat + 256 * fromBytes bs := Nat.ofDigits_cons ..

theorem fromBytes_lt (bs : List UInt8) : fromBytes bs < 256 ^ bs.length := by
  induction bs with
  | nil => simp [fromBytes]
  | cons b bs ih =>
    have := b.toNat_lt
    rw [fromBytes_cons, List.length_cons, pow_succ]
    omega

theorem fromBytes_toBytes {w n : Nat} (fits : n < 256 ^ w) : fromBytes (toBytes w n) = n := by
  induction w generalizing n with
  | zero =>
    have : n = 0 := by simpa using fits
    simp [toBytes, fromBytes, this]
  | succ w ih =>
    have digit : (UInt8.ofNat (n % 256)).toNat = n % 256 :=
      UInt8.toNat_ofNat_of_lt' (Nat.mod_lt _ (by decide))
    rw [toBytes, fromBytes_cons, digit, ih (by rw [pow_succ] at fits; omega)]
    omega

theorem toBytes_fromBytes (bs : List UInt8) : toBytes bs.length (fromBytes bs) = bs := by
  induction bs with
  | nil => rfl
  | cons b bs ih =>
    have := b.toNat_lt
    rw [List.length_cons, toBytes, fromBytes_cons, show (b.toNat + 256 * fromBytes bs) / 256 =
      fromBytes bs by omega, ih, show (b.toNat + 256 * fromBytes bs) % 256 = b.toNat by omega,
      UInt8.ofNat_toNat]

/-- The bytes of an integer are the ones of this width that spell it. -/
theorem fromBytes_eq_iff {w n : Nat} {bs : List UInt8} (width : bs.length = w) :
    fromBytes bs = n ↔ n < 256 ^ w ∧ bs = toBytes w n := by
  constructor
  · rintro rfl
    subst width
    exact ⟨fromBytes_lt bs, (toBytes_fromBytes bs).symm⟩
  · rintro ⟨fits, rfl⟩
    exact fromBytes_toBytes fits

/-! ## What a reader accepts -/

/-- The file after `n` bytes. -/
structure Moved (f f' : BinaryFile) (n : Nat) : Prop where
  contents : f'.contents = f.contents
  position : f'.position = f.position + n
  consumed : f'.consumed ≤ max f.consumed f'.position

theorem Moved.refl (f : BinaryFile) : f.Moved f 0 := ⟨rfl, rfl, le_max_left ..⟩

variable {f f' f'' : BinaryFile} {n k : Nat} {bs cs : List UInt8} {a : α} {b : β} {e : ε}

theorem Moved.trans (first : f.Moved f' n) (second : f'.Moved f'' k) : f.Moved f'' (n + k) where
  contents := second.contents.trans first.contents
  position := by rw [second.position, first.position, Nat.add_assoc]
  consumed := by
    have := first.consumed
    have := first.position
    have := second.consumed
    have := second.position
    omega

theorem Moved.ahead (moved : f.Moved f' n) : f'.ahead = f.ahead.drop n := by
  unfold BinaryFile.ahead
  rw [moved.contents, moved.position, List.drop_drop]

theorem Moved.ahead_append (moved : f.Moved f' bs.length) (first : bs <+: f.ahead) :
    bs ++ cs <+: f.ahead ↔ cs <+: f'.ahead := by
  obtain ⟨rest, split⟩ := first
  rw [moved.ahead, ← split, List.drop_left, List.prefix_append_right_inj]

/-- The position is not behind the end. -/
def InRange (f : BinaryFile) : Prop := f.position ≤ f.contents.length

theorem opened_inRange (contents : List UInt8) (seekable : Bool) :
    (opened contents seekable).InRange := Nat.zero_le _

theorem Moved.inRange (moved : f.Moved f' bs.length) (inRange : f.InRange)
    (first : bs <+: f.ahead) : f'.InRange := by
  have := first.length_le
  rw [BinaryFile.ahead, List.length_drop] at this
  unfold InRange at *
  rw [moved.contents, moved.position]
  omega

/-- `m` returns `a` exactly where bytes of `G` for `a` lie ahead, and stops behind them. -/
structure Reads (m : Method BinaryFile ε α) (G : α → List UInt8 → Prop) : Prop where
  sound : ∀ {f a f'}, f.InRange → m f = (.ok a, f') →
    ∃ bs, G a bs ∧ bs <+: f.ahead ∧ f.Moved f' bs.length
  complete : ∀ {f a bs}, f.InRange → G a bs → bs <+: f.ahead →
    ∃ f', m f = (.ok a, f') ∧ f.Moved f' bs.length

variable {m : Method BinaryFile ε α} {k : α → Method BinaryFile ε β} {G : α → List UInt8 → Prop}
  {H : α → β → List UInt8 → Prop}

theorem bind_ok (first : m f = (.ok a, f')) : (m >>= k) f = k a f' := by
  show Method.andThen m k f = _
  simp only [Method.andThen, first]

theorem bind_error (first : m f = (.error e, f')) : (m >>= k) f = (.error e, f') := by
  show Method.andThen m k f = _
  simp only [Method.andThen, first]

theorem bind_eq_ok (result : (m >>= k) f = (.ok b, f'')) :
    ∃ a f', m f = (.ok a, f') ∧ k a f' = (.ok b, f'') := by
  obtain ⟨e | a, f', first⟩ : ∃ r f', m f = (r, f') := ⟨_, _, rfl⟩
  · rw [bind_error first] at result
    cases result
  · exact ⟨a, f', first, (bind_ok first).symm.trans result⟩

/-- `for _ in range(n)`, over what the body passes on. -/
def loop (body : α → Method BinaryFile ε α) : Nat → α → Method BinaryFile ε α
  | 0, a => pure a
  | n + 1, a => body a >>= loop body n

namespace Reads

theorem congr {G' : α → List UInt8 → Prop} (reads : Reads m G)
    (same : ∀ a bs, G a bs ↔ G' a bs) : Reads m G' where
  sound inRange result := by
    obtain ⟨bs, spelled, first, moved⟩ := reads.sound inRange result
    exact ⟨bs, (same _ _).mp spelled, first, moved⟩
  complete inRange spelled first := reads.complete inRange ((same _ _).mpr spelled) first

theorem pure (a : α) : Reads (pure a : Method BinaryFile ε α) fun b bs => b = a ∧ bs = [] where
  sound _ result := by
    cases result
    exact ⟨[], ⟨rfl, rfl⟩, List.nil_prefix, .refl _⟩
  complete := by
    rintro f _ _ _ ⟨rfl, rfl⟩ _
    exact ⟨f, rfl, .refl f⟩

theorem raise (e : ε) : Reads (Method.raise e : Method BinaryFile ε α) fun _ _ => False where
  sound := nofun
  complete := nofun

theorem raiseIf (c : Prop) [Decidable c] (e : ε) :
    Reads (Method.raiseIf c e : Method BinaryFile ε Unit) fun _ bs => ¬ c ∧ bs = [] := by
  unfold Method.raiseIf
  split
  · next holds => exact (raise e).congr fun _ _ => by simp [holds]
  · next fails => exact (pure ()).congr fun _ _ => by simp [fails]

theorem bind (reads : Reads m G) (next : ∀ a, Reads (k a) (H a)) :
    Reads (m >>= k) fun b bs => ∃ a bs₁ bs₂, bs = bs₁ ++ bs₂ ∧ G a bs₁ ∧ H a b bs₂ where
  sound inRange result := by
    obtain ⟨a, f', done, result⟩ := bind_eq_ok result
    obtain ⟨bs₁, spelled, first, moved⟩ := reads.sound inRange done
    obtain ⟨bs₂, spelled', first', moved'⟩ := (next a).sound (moved.inRange inRange first) result
    refine ⟨bs₁ ++ bs₂, ⟨a, bs₁, bs₂, rfl, spelled, spelled'⟩,
      (moved.ahead_append first).mpr first', ?_⟩
    rw [List.length_append]
    exact moved.trans moved'
  complete := by
    rintro f b _ inRange ⟨a, bs₁, bs₂, rfl, spelled, spelled'⟩ both
    have first : bs₁ <+: f.ahead := (List.prefix_append bs₁ bs₂).trans both
    obtain ⟨f', done, moved⟩ := reads.complete inRange spelled first
    obtain ⟨f'', done', moved'⟩ := (next a).complete (moved.inRange inRange first) spelled'
      ((moved.ahead_append first).mp both)
    refine ⟨f'', (bind_ok done).trans done', ?_⟩
    rw [List.length_append]
    exact moved.trans moved'

theorem map (reads : Reads m G) (g : α → β) :
    Reads (m >>= fun a => Pure.pure (g a)) fun b bs => ∃ a, b = g a ∧ G a bs :=
  (reads.bind fun a => pure (g a)).congr fun b bs => by
    constructor
    · rintro ⟨a, bs₁, _, rfl, spelled, rfl, rfl⟩
      exact ⟨a, rfl, by rwa [List.append_nil]⟩
    · rintro ⟨a, rfl, spelled⟩
      exact ⟨a, bs, [], (List.append_nil bs).symm, spelled, rfl, rfl⟩

theorem checked (c : Prop) [Decidable c] (e : ε) {G : α → List UInt8 → Prop}
    (next : ¬ c → Reads m G) :
    Reads (Method.raiseIf c e >>= fun _ => m) fun b bs => ¬ c ∧ G b bs := by
  unfold Method.raiseIf
  split
  · next holds =>
    exact ((raise e).bind fun _ : Unit => raise e).congr fun _ _ => by simp [holds]
  · next fails => exact (next fails).congr fun _ _ => by simp [fails]

/-- `f.read(n)` that has to give `n` bytes. -/
theorem exactly (n : Nat) (e : ε) :
    Reads (read n >>= fun data => Method.raiseIf (data.length ≠ n) e >>= fun _ => Pure.pure data)
      fun data bs => data = bs ∧ bs.length = n where
  sound := by
    intro f data f' inRange result
    obtain ⟨data, f₁, taken, result⟩ := bind_eq_ok result
    have advanced : f.Moved f₁ data.length := by
      cases taken
      exact ⟨rfl, rfl, le_rfl⟩
    have first : data <+: f.ahead := by
      cases taken
      exact List.take_prefix n f.ahead
    obtain ⟨_, _, checked, ⟨⟩⟩ := bind_eq_ok result
    obtain ⟨_, ⟨whole, rfl⟩, _, moved⟩ :=
      (raiseIf _ e).sound (advanced.inRange inRange first) checked
    exact ⟨data, ⟨rfl, not_not.mp whole⟩, first, advanced.trans moved⟩
  complete := by
    rintro f data _ _ ⟨rfl, width⟩ ⟨rest, split⟩
    have taken : f.ahead.take n = data := by rw [← split, ← width, List.take_left]
    refine ⟨{ f with
        position := f.position + data.length
        consumed := max f.consumed (f.position + data.length) }, ?_, ⟨rfl, rfl, le_rfl⟩⟩
    rw [bind_ok (show read n f = _ by rw [read, taken]), Method.raiseIf, if_neg (not_not.mpr width)]
    rfl

/-! ## Loops -/

variable {X : Type} {body : α → Method BinaryFile ε α} {spell : X → List UInt8}
  {next : α → X → Option α}

theorem loop
    (reads : ∀ a, Reads (body a) fun a' bs => ∃ x, bs = spell x ∧ next a x = some a') (n : Nat) :
    ∀ a, Reads (BinaryFile.loop body n a) fun b bs =>
      ∃ xs : List X, xs.length = n ∧ bs = xs.flatMap spell ∧ xs.foldlM next a = some b := by
  induction n with
  | zero =>
    refine fun a => (pure a).congr fun b bs => ?_
    simp [eq_comm, and_comm]
  | succ n ih =>
    refine fun a => ((reads a).bind ih).congr fun b bs => ?_
    constructor
    · rintro ⟨a', _, _, rfl, ⟨x, rfl, one⟩, xs, rfl, rfl, all⟩
      exact ⟨x :: xs, rfl, rfl, by rw [List.foldlM_cons, one]; exact all⟩
    · rintro ⟨_ | ⟨x, xs⟩, length, rfl, all⟩
      · cases length
      · rw [List.foldlM_cons] at all
        obtain ⟨a', one, all⟩ := Option.bind_eq_some_iff.mp all
        exact ⟨a', spell x, xs.flatMap spell, rfl, ⟨x, rfl, one⟩, xs, Nat.succ.inj length, rfl, all⟩

theorem truncated (reads : Reads m G) (spelled : G a bs) {part : List UInt8} (cut : part <+: bs)
    (proper : part ≠ bs) (seekable : Bool) : ∃ e f', m (opened part seekable) = (.error e, f') := by
  obtain ⟨e | a', f', result⟩ : ∃ r f', m (opened part seekable) = (r, f') := ⟨_, _, rfl⟩
  · exact ⟨e, f', result⟩
  · obtain ⟨bs', spelled', first, _⟩ := reads.sound (opened_inRange part seekable) result
    -- On the whole text the reader would stop behind both.
    have whole := opened_inRange bs seekable
    obtain ⟨f₁, done, moved⟩ := reads.complete whole spelled List.prefix_rfl
    obtain ⟨f₂, done', moved'⟩ := reads.complete whole spelled' (first.trans cut)
    have same : f₁ = f₂ := congrArg Prod.snd (done.symm.trans done')
    have length : bs'.length = bs.length := by
      have := moved.position
      have := moved'.position
      subst same
      omega
    have within : bs'.length ≤ part.length := first.length_le
    exact absurd (cut.eq_of_length_le (by omega)) proper

end Reads

/-! ## Where a reader raises -/

/-- Wherever `bs` lies ahead `m` raises an exception that satisfies `P`, and it has read nothing
behind `bs`. -/
def Fails (m : Method BinaryFile ε α) (bs : List UInt8) (P : ε → Prop) : Prop :=
  ∀ f, f.InRange → bs <+: f.ahead → ∃ e f', m f = (.error e, f') ∧ P e ∧
    f'.consumed ≤ max f.consumed (f.position + bs.length)

namespace Fails

variable {P : ε → Prop} {bs₁ bs₂ : List UInt8}

theorem raise (holds : P e) : Fails (Method.raise e : Method BinaryFile ε α) bs P :=
  fun f _ _ => ⟨e, f, rfl, holds, le_max_left ..⟩

theorem mono {Q : ε → Prop} (fails : Fails m bs P) (weaker : ∀ e, P e → Q e) : Fails m bs Q := by
  intro f inRange first
  obtain ⟨e, f', result, holds, within⟩ := fails f inRange first
  exact ⟨e, f', result, weaker e holds, within⟩

theorem extend (fails : Fails m bs₁ P) : Fails m (bs₁ ++ bs₂) P := by
  intro f inRange both
  obtain ⟨e, f', result, holds, within⟩ :=
    fails f inRange ((List.prefix_append bs₁ bs₂).trans both)
  refine ⟨e, f', result, holds, ?_⟩
  rw [List.length_append]
  omega

theorem bind (fails : Fails m bs P) : Fails (m >>= k) bs P := by
  intro f inRange first
  obtain ⟨e, f', result, holds, within⟩ := fails f inRange first
  exact ⟨e, f', bind_error result, holds, within⟩

theorem right (reads : Reads m G) (spelled : G a bs₁) (fails : Fails (k a) bs₂ P) :
    Fails (m >>= k) (bs₁ ++ bs₂) P := by
  intro f inRange both
  have first : bs₁ <+: f.ahead := (List.prefix_append bs₁ bs₂).trans both
  obtain ⟨f', done, moved⟩ := reads.complete inRange spelled first
  obtain ⟨e, f'', result, holds, within⟩ :=
    fails f' (moved.inRange inRange first) ((moved.ahead_append first).mp both)
  refine ⟨e, f'', (bind_ok done).trans result, holds, ?_⟩
  have := moved.consumed
  have := moved.position
  rw [List.length_append]
  omega

/-- What fails once all of the bytes have been read. -/
theorem behind (reads : Reads m G) (spelled : G a bs) (fails : Fails (k a) [] P) :
    Fails (m >>= k) bs P := by
  have both : Fails (m >>= k) (bs ++ []) P := right reads spelled fails
  rwa [List.append_nil] at both

variable {c : Prop} [Decidable c] {k : Unit → Method BinaryFile ε β}

theorem check (violated : c) (holds : P e) : Fails (Method.raiseIf c e >>= k) bs P := by
  have raised : Fails (Method.raiseIf c e : Method BinaryFile ε Unit) bs P := by
    unfold Method.raiseIf
    rw [if_pos violated]
    exact raise holds
  exact raised.bind

theorem passed (passes : ¬ c) (fails : Fails (k ()) bs P) :
    Fails (Method.raiseIf c e >>= k) bs P := by
  unfold Method.raiseIf
  rw [if_neg passes]
  exact fails

variable {X : Type} {body : α → Method BinaryFile ε α} {spell : X → List UInt8}
  {next : α → X → Option α}

/-- A loop raises where the body raises behind the items that it has read. -/
theorem loop
    (reads : ∀ a, Reads (body a) fun a' bs => ∃ x, bs = spell x ∧ next a x = some a')
    (stops : ∀ a x, next a x = none → Fails (body a) (spell x) P)
    (last : ∀ a, Fails (body a) bs P) {xs : List X} :
    ∀ {n a}, xs.length < n → Fails (BinaryFile.loop body n a) (xs.flatMap spell ++ bs) P := by
  induction xs with
  | nil =>
    rintro (_ | n) a more
    · cases more
    · exact (last a).bind
  | cons x xs ih =>
    rintro (_ | n) a more
    · cases more
    · rw [List.flatMap_cons, List.append_assoc]
      obtain one | ⟨a', one⟩ := (next a x).eq_none_or_eq_some
      · exact (stops a x one).extend.bind
      · exact right (reads a) ⟨x, rfl, one⟩ (ih (Nat.lt_of_succ_lt_succ more))

/-- A loop raises where one of its items makes the body raise. -/
theorem loop_stopped
    (reads : ∀ a, Reads (body a) fun a' bs => ∃ x, bs = spell x ∧ next a x = some a')
    (stops : ∀ a x, next a x = none → Fails (body a) (spell x) P) {xs : List X} :
    ∀ {a}, xs.foldlM next a = none →
      Fails (BinaryFile.loop body xs.length a) (xs.flatMap spell) P := by
  induction xs with
  | nil => nofun
  | cons x xs ih =>
    intro a all
    rw [List.foldlM_cons] at all
    rw [List.flatMap_cons]
    obtain one | ⟨a', one⟩ := (next a x).eq_none_or_eq_some
    · exact (stops a x one).extend.bind
    · rw [one] at all
      exact right (reads a) ⟨x, rfl, one⟩ (ih all)

end Fails

/-- Whatever `m` raises satisfies `P`. -/
def RaisesOnly (m : Method BinaryFile ε α) (P : ε → Prop) : Prop :=
  ∀ f e f', m f = (.error e, f') → P e

namespace RaisesOnly

variable {P : ε → Prop}

theorem pure (a : α) : RaisesOnly (pure a : Method BinaryFile ε α) P := nofun

theorem read (n : Nat) : RaisesOnly (read n) P := nofun

theorem raise (holds : P e) : RaisesOnly (Method.raise e : Method BinaryFile ε α) P := by
  rintro f _ _ ⟨⟩
  exact holds

theorem check {c : Prop} [Decidable c] (holds : P e) :
    RaisesOnly (Method.raiseIf c e : Method BinaryFile ε Unit) P := by
  unfold Method.raiseIf
  split
  · exact raise holds
  · exact pure ()

theorem bind (first : RaisesOnly m P) (next : ∀ a, RaisesOnly (k a) P) :
    RaisesOnly (m >>= k) P := by
  intro f e f' result
  obtain ⟨e' | a, f₁, done⟩ : ∃ r f₁, m f = (r, f₁) := ⟨_, _, rfl⟩
  · rw [bind_error done] at result
    cases result
    exact first f _ _ done
  · exact next a f₁ e f' ((bind_ok done).symm.trans result)

theorem loop {body : α → Method BinaryFile ε α} (once : ∀ a, RaisesOnly (body a) P) (n : Nat) :
    ∀ a, RaisesOnly (BinaryFile.loop body n a) P := by
  induction n with
  | zero => exact pure
  | succ n ih => exact fun a => bind (once a) ih

end RaisesOnly

end BinaryFile
