import SolutionSurvey.Journal.Event
import SolutionSurvey.Syntax.View
import Mathlib.Data.List.Basic

/-!
# The course of a lazy stream

A lazy stream is a state with a function that gives the reply to the next request and the state after
it. What a client sees of it is the list of replies to its requests. A course writes down all of it at
once: the items with the events noted before each, and how the stream ends. After its end a stream has
nothing more to say, so its course fixes the replies to any number of requests.

## Main definitions

* `replies` — the replies to some requests in a row.
* `Course` — items in order, then an end; `Course.note` and `Course.give` put events and items before it.
* `Course.replies` — the replies that a course stands for.
* `Course.Follows` — a stream takes a course.
* `Course.Follows.replies_eq` — its replies are those of the course.
* `yields` — what `n` requests get; `Course.yields_replies` reads it off a course.
-/

namespace SolutionSurvey

variable {σ α : Type} {next : σ → List Event × Yield α × σ}

/-- The replies to `n` requests in a row, each with the events noted on the way to it. -/
def replies (next : σ → List Event × Yield α × σ) : ℕ → σ → List (List Event × Yield α)
  | 0, _ => []
  | n + 1, t => ((next t).1, (next t).2.1) :: replies next n (next t).2.2

/-- What a stream gives from now on. -/
inductive Course (α : Type) where
  /-- The end, which may be a failure, after the last events. -/
  | ends (events : List Event) (failure : Option Failure)
  /-- An item after some events, then the rest. -/
  | gives (events : List Event) (item : α) (rest : Course α)

/-- How a stream ends: with a failure or without one. -/
def Yield.ofEnd : Option Failure → Yield α
  | none => .finished
  | some f => .failed f

/-- What `n` requests get from a stream that gives some items, then ends with a failure or without one,
and has nothing more to give. -/
def yields (items : List α) (failure : Option Failure) (n : ℕ) : List (Yield α) :=
  (items.map Yield.item ++ Yield.ofEnd failure :: List.replicate n Yield.finished).take n

namespace Course

/-- The items of a course. -/
def items : Course α → List α
  | ends _ _ => []
  | gives _ a c => a :: c.items

/-- The failure at the end of a course. -/
def failure : Course α → Option Failure
  | ends _ f => f
  | gives _ _ c => c.failure

/-- The replies to `n` requests. Those after the end get nothing. -/
def replies : Course α → ℕ → List (List Event × Yield α)
  | _, 0 => []
  | ends events f, n + 1 => (events, .ofEnd f) :: List.replicate n ([], .finished)
  | gives events a c, n + 1 => (events, .item a) :: c.replies n

/-- The same course with events before its first reply. -/
def note (events : List Event) : Course α → Course α
  | ends later f => ends (events ++ later) f
  | gives later a c => gives (events ++ later) a c

/-- Some items, then a course. -/
def give (as : List α) (c : Course α) : Course α :=
  as.foldr (gives []) c

variable {c : Course α}

@[simp] theorem give_nil : give [] c = c := rfl

@[simp] theorem give_cons (a : α) (as : List α) : give (a :: as) c = gives [] a (give as c) := rfl

@[simp] theorem items_note (events : List Event) : (c.note events).items = c.items := by
  cases c <;> rfl

@[simp] theorem failure_note (events : List Event) : (c.note events).failure = c.failure := by
  cases c <;> rfl

@[simp] theorem items_give (as : List α) : (give as c).items = as ++ c.items := by
  induction as with
  | nil => rfl
  | cons a as ih => rw [give_cons, items, ih, List.cons_append]

@[simp] theorem failure_give (as : List α) : (give as c).failure = c.failure := by
  induction as with
  | nil => rfl
  | cons a as ih => rw [give_cons, failure, ih]

@[simp] theorem replies_zero : c.replies 0 = [] := by
  cases c <;> rfl

/-! ## Replies -/

/-- **A course gives its items, then its end.** -/
theorem yields_replies (c : Course α) (n : ℕ) :
    (c.replies n).map Prod.snd = yields c.items c.failure n := by
  unfold yields
  -- More repetitions at the end than there are requests make no difference.
  suffices ∀ k, n ≤ k → (c.replies n).map Prod.snd =
      (c.items.map Yield.item ++ Yield.ofEnd c.failure :: List.replicate k Yield.finished).take n from
    this n (Nat.le_refl n)
  intro k hk
  induction c generalizing n with
  | ends events f =>
      cases n with
      | zero => rfl
      | succ n =>
          simp only [replies, items, failure, List.map_cons, List.map_replicate, List.map_nil,
            List.nil_append, List.take_succ_cons, List.take_replicate]
          rw [Nat.min_eq_left (by omega)]
  | gives events a c ih =>
      cases n with
      | zero => rfl
      | succ n =>
          simp only [replies, items, failure, List.map_cons, List.cons_append, List.take_succ_cons]
          rw [ih n (by omega)]

/-- Requests for more than some items go on to what comes after these. -/
theorem replies_give (as : List α) (n : ℕ) :
    (give as c).replies n = (as.map fun a => ([], .item a)).take n ++ c.replies (n - as.length) := by
  induction as generalizing n with
  | nil => simp
  | cons a as ih =>
      cases n with
      | zero => simp
      | succ n => simp [replies, ih]

/-- Events before a course come with its first reply. -/
theorem replies_note (events : List Event) (n : ℕ) :
    (c.note events).replies n = (c.replies n).modifyHead (Prod.map (events ++ ·) id) := by
  cases n <;> cases c <;> rfl

/-- Events before a course do not change what it gives. -/
theorem yields_note (events : List Event) (n : ℕ) :
    ((c.note events).replies n).map Prod.snd = (c.replies n).map Prod.snd := by
  rw [yields_replies, yields_replies, items_note, failure_note]

/-- The events noted while `n` requests are served. -/
def noted (c : Course α) (n : ℕ) : List Event :=
  (c.replies n).flatMap Prod.fst

@[simp] theorem noted_zero : c.noted 0 = [] := by
  simp [noted]

/-- Nothing is noted for items that are there already. -/
theorem noted_give (as : List α) (n : ℕ) : (give as c).noted n = c.noted (n - as.length) := by
  have hnone : ((as.map fun a => (([] : List Event), Yield.item a)).take n).flatMap Prod.fst = [] := by
    rw [List.flatMap_eq_nil_iff]
    intro r hr
    obtain ⟨a, -, rfl⟩ := List.mem_map.mp (List.mem_of_mem_take hr)
    rfl
  rw [noted, replies_give, List.flatMap_append, hnone, List.nil_append, noted]

/-- The first request notes the events before a course. -/
theorem noted_note (events : List Event) (n : ℕ) :
    (c.note events).noted (n + 1) = events ++ c.noted (n + 1) := by
  cases c <;> simp [noted, note, replies]

/-! ## Streams that take a course -/

/-- The replies from `r` on take a course: each item is given after its events, and after the end the
state of the stream stays as it is. -/
def Follows (next : σ → List Event × Yield α × σ) : Course α → List Event × Yield α × σ → Prop
  | ends events f, r => r.1 = events ∧ r.2.1 = .ofEnd f ∧ next r.2.2 = ([], .finished, r.2.2)
  | gives events a c, r => r.1 = events ∧ r.2.1 = .item a ∧ c.Follows next (next r.2.2)

/-- Events noted on the way to a reply are events before its course. -/
theorem Follows.note {r : List Event × Yield α × σ} (h : c.Follows next r) (events : List Event) :
    (c.note events).Follows next (events ++ r.1, r.2) := by
  cases c with
  | ends later f => exact ⟨by rw [h.1], h.2⟩
  | gives later a c => exact ⟨by rw [h.1], h.2⟩

/-- A stream that is at its end gives nothing any more. -/
theorem replies_of_finished {t : σ} (h : next t = ([], .finished, t)) (n : ℕ) :
    SolutionSurvey.replies next n t = List.replicate n ([], .finished) := by
  induction n with
  | zero => rfl
  | succ n ih => rw [SolutionSurvey.replies, h, ih, List.replicate_succ]

/-- **A stream that takes a course replies as the course does**, however often it is asked. -/
theorem Follows.replies_eq {t : σ} (h : c.Follows next (next t)) (n : ℕ) :
    SolutionSurvey.replies next n t = c.replies n := by
  induction c generalizing n t with
  | ends events f =>
      obtain ⟨hevents, hend, hstays⟩ := h
      cases n with
      | zero => rfl
      | succ n => rw [SolutionSurvey.replies, hevents, hend, replies_of_finished hstays, replies]
  | gives events a c ih =>
      obtain ⟨hevents, hitem, hrest⟩ := h
      cases n with
      | zero => rfl
      | succ n => rw [SolutionSurvey.replies, hevents, hitem, ih hrest, replies]

end Course

end SolutionSurvey
