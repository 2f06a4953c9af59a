import Landscape.Proofs.Surroundings

/-!
Writes that were acknowledged last. A run of calls, with sinks that call back, is told as a log of its
moments: when a sink begins to hear of a call, and when a call is answered, each with what the stores hold
then. A place of a store holds at a later moment what it held at an earlier one, unless a write of it that
began in between was acknowledged or is still being heard of, or a write of it that was being heard of at
the earlier moment was refused in between.
-/

namespace Landscape

structure Place where
  model : ModelRef
  kind : Kind
  id : ResourceId
  deriving DecidableEq

def Estate.heldAt {Outside : Type} (place : Place) (estate : Estate Outside) : Option EntityRef :=
  estate.stored place.model place.kind place.id

def Call.place {Outside : Type} (estate : Estate Outside) : Call → Option Place
  | .add model entity => (estate.entity? entity).map fun found => ⟨model, found.kind, found.id⟩
  | .delete model kind id => some ⟨model, kind, id⟩
  | _ => none

structure Moment where
  call : Call
  place : Option Place
  since : Nat
  answer : Option Call.Answer
  contents : Place → Option EntityRef

def Estate.note (call : Call) (place : Option Place) (since : Nat) (answer : Option Call.Answer)
    (estate : Estate (List Moment)) : Estate (List Moment) :=
  estate.onOutside (· ++ [⟨call, place, since, answer, fun place => estate.heldAt place⟩])

/-- A sink that notes that it hears of the call, does what it does, and gives its answer. -/
def noticing (call : Call) (place : Option Place) (since : Nat) (verdict : Except EventError Unit)
    (inner : Estate (List Moment) → Estate (List Moment)) : Deliver (List Moment) := fun _ _ found =>
  (verdict, inner (found.note call place since none))

def Script.keep : Script → Estate (List Moment) → Estate (List Moment)
  | done, estate => estate
  | call wanted inner verdict rest, estate =>
      let outcome := wanted.perform
        (noticing wanted (wanted.place estate) estate.outside.length verdict inner.keep) estate
      rest.keep (outcome.2.note wanted (wanted.place estate) estate.outside.length (some outcome.1))

theorem Script.keep_erased (script : Script) (estate : Estate (List Moment)) :
    (script.keep estate).amid () = script.enact (estate.amid ()) := by
  induction script generalizing estate with
  | done => rfl
  | call wanted inner verdict rest hears goes =>
      have erases : (noticing wanted (wanted.place estate) estate.outside.length verdict inner.keep).Erases
          fun _ _ found => (verdict, inner.enact found) := by
        intro sink event found
        exact congrArg (Prod.mk verdict) (hears _)
      rw [keep, enact, goes, ← Call.perform_erased erases wanted estate]
      rfl

namespace Estate

variable {Outside : Type}

theorem Undisturbed.becomes {before after : Estate Outside} (undisturbed : before.Undisturbed after) :
    before.Becomes after before.contents where
  made model isMade := by
    obtain ⟨owner, made⟩ := Option.isSome_iff_exists.mp isMade
    obtain ⟨now, madeNow, _⟩ := (undisturbed.1 model).made owner made
    exact Option.isSome_iff_exists.mpr ⟨now, madeNow⟩
  outside := undisturbed.2
  stored model := (undisturbed.1 model).stored

end Estate

namespace Call

variable {Outside : Type} {call : Call} {estate found after : Estate Outside}
  {outcome : Answer × Estate Outside}

/-- What a sink finds when it hears of a call: only the place of the call may differ. -/
structure Begins (call : Call) (estate found : Estate Outside) : Prop where
  made : ∀ model, (estate.model? model).isSome → (found.model? model).isSome
  outside : found.outside = estate.outside
  apart : ∀ place, call.place estate ≠ some place → found.heldAt place = estate.heldAt place

/-- How a call ends after its sink has answered: as the sink left things, except that the place of a write
that is not done gets back what it held. -/
structure Ends (call : Call) (estate after : Estate Outside) (outcome : Answer × Estate Outside) :
    Prop where
  made : ∀ model, (after.model? model).isSome → (outcome.2.model? model).isSome
  outside : outcome.2.outside = after.outside
  kept : ∀ place, (call.place estate = some place → outcome.1 = .done) →
    outcome.2.heldAt place = after.heldAt place
  restored : ∀ place, call.place estate = some place → outcome.1 ≠ .done →
    outcome.2.heldAt place = estate.heldAt place

theorem place_reads (reads : call.isWrite = false) : call.place estate = none := by
  cases call with
  | add | delete => cases reads
  | _ => rfl

theorem begins_of_becomes (becomes : estate.Becomes found estate.contents) :
    call.Begins estate found :=
  ⟨becomes.made, becomes.outside, fun place _ => becomes.stored place.model place.kind place.id⟩

theorem ends_of_becomes (unwritten : call.place estate = none)
    (becomes : after.Becomes outcome.2 after.contents) : call.Ends estate after outcome where
  made := becomes.made
  outside := becomes.outside
  kept place _ := becomes.stored place.model place.kind place.id
  restored place written := by
    rw [unwritten] at written
    cases written

theorem done_iff (result : Except ModelError Unit) :
    Answer.ofChange result = .done ↔ result = .ok () := by
  cases result with
  | ok _ => exact iff_of_true rfl rfl
  | error cause => exact iff_of_false nofun nofun

theorem hears_of_write {model : ModelRef} {kind : Kind} {id : ResourceId}
    {final : Deliver Outside → Outcome ModelError Outside}
    (written : call.place estate = some ⟨model, kind, id⟩)
    (writes : estate.OneWriteOf model kind id final) :
    (∃ answer, ∀ deliver, final deliver = (answer, estate)) ∨
      ∃ sink event found, call.Begins estate found ∧ ∀ deliver : Deliver Outside,
        (∀ other, (found.model? other).isSome →
          ((deliver sink event found).2.model? other).isSome) →
        call.Ends estate (deliver sink event found).2
          (answering .ofChange (final deliver)) := by
  refine writes.imp_right ?_
  rintro ⟨isMade, sink, event, found, value, _, _, _, entered, ends⟩
  have own : ∀ {place : Place}, call.place estate = some place →
      place.model = model ∧ place.kind = kind ∧ place.id = id := by
    intro place same
    rw [written] at same
    cases same
    exact ⟨rfl, rfl, rfl⟩
  have foreign : ∀ {place : Place}, call.place estate ≠ some place →
      ¬(place.model = model ∧ place.kind = kind ∧ place.id = id) := by
    rintro ⟨_, _, _⟩ apart ⟨rfl, rfl, rfl⟩
    exact apart written
  refine ⟨sink, event, found, ⟨entered.made, entered.outside, fun place apart => ?_⟩,
    fun deliver reached => ?_⟩
  · exact (entered.stored _ _ _).trans (if_neg (foreign apart))
  obtain ⟨taken, becomes⟩ := ends deliver
  have ended := becomes (reached model (entered.made model isMade))
  refine ⟨ended.made, ended.outside, fun place done => ?_, fun place same undone => ?_⟩
  · refine (ended.stored _ _ _).trans ?_
    split
    · rfl
    · next refused =>
        refine if_neg (foreign fun same => refused ?_)
        exact taken.mp ((done_iff _).mp (done same))
  · have refused : (deliver sink event found).1.isOk ≠ true := fun accepted =>
      undone ((done_iff _).mpr (taken.mpr accepted))
    refine (ended.stored _ _ _).trans ?_
    rw [if_neg refused]
    obtain ⟨rfl, rfl, rfl⟩ := own same
    exact if_pos ⟨rfl, rfl, rfl⟩

/-- No sink hears of a call and the stores stay, or one sink does and decides how it ends. -/
theorem perform_hears (call : Call) (estate : Estate Outside) :
    (∃ after, (∀ deliver, (call.perform deliver estate).2 = after) ∧
        estate.Becomes after estate.contents) ∨
      ∃ sink event found, call.Begins estate found ∧ ∀ deliver : Deliver Outside,
        (∀ other, (found.model? other).isSome →
          ((deliver sink event found).2.model? other).isSome) →
        call.Ends estate (deliver sink event found).2 (call.perform deliver estate) := by
  by_cases writes : call.isWrite = true
  case neg =>
    have reads : call.isWrite = false := by simpa using writes
    rcases call.perform_reports reads estate with
      ⟨after, same, undisturbed⟩ | ⟨sink, event, found, _, before, later⟩
    · exact .inl ⟨after, same, undisturbed.becomes⟩
    · exact .inr ⟨sink, event, found, begins_of_becomes before.becomes, fun deliver _ =>
        ends_of_becomes (place_reads reads) (later deliver).becomes⟩
  have still : estate.Becomes estate estate.contents := Estate.becomes_same rfl rfl
  cases call with
  | add model entity =>
      cases here : estate.entity? entity with
      | none =>
          refine .inl ⟨estate, fun deliver => ?_, still⟩
          simp only [perform, answering, Estate.add, here]
      | some found =>
          have written : (Call.add model entity).place estate = some ⟨model, found.kind, found.id⟩ := by
            rw [place, here]
            rfl
          refine (hears_of_write written (Estate.add_writes_of model here)).imp_left ?_
          rintro ⟨answer, same⟩
          exact ⟨estate, fun deliver => congrArg Prod.snd (same deliver), still⟩
  | delete model kind id =>
      have written : (Call.delete model kind id).place estate = some ⟨model, kind, id⟩ := rfl
      refine (hears_of_write written (Estate.delete_writes_of model kind id estate)).imp_left ?_
      rintro ⟨answer, same⟩
      exact ⟨estate, fun deliver => congrArg Prod.snd (same deliver), still⟩
  | _ => cases writes

end Call

/-- How the log tells that the place goes from what it holds at one moment to what it holds at another, call
after call. -/
inductive Course (log : List Moment) (place : Place) :
    Nat → Option EntityRef → Nat → Option EntityRef → Prop where
  | rest {now held} : Course log place now held now held
  | unheard {now held last final moment} (here : log[now]? = some moment)
      (began : moment.since = now) (closed : moment.answer.isSome)
      (holds : moment.contents place = held)
      (later : Course log place (now + 1) held last final) : Course log place now held last final
  | heard {now held stop inner last final hearing moment} (here : log[now]? = some hearing)
      (began : hearing.since = now) (unanswered : hearing.answer = none)
      (during : Course log place (now + 1) (hearing.contents place) stop inner)
      (there : log[stop]? = some moment) (same : moment.since = now) (closed : moment.answer.isSome)
      (ofCall : moment.place = hearing.place)
      (apart : hearing.place ≠ some place → hearing.contents place = held)
      (kept : (moment.place = some place → moment.answer = some .done) →
        moment.contents place = inner)
      (restored : moment.place = some place → moment.answer ≠ some .done →
        moment.contents place = held)
      (later : Course log place (stop + 1) (moment.contents place) last final) :
      Course log place now held last final

/-- From one moment to a later one no write of the place that began in between is acknowledged or still being
heard of, and none that was being heard of is refused. -/
structure Unwritten (log : List Moment) (place : Place) (i j : Nat) : Prop where
  acknowledged : ∀ p moment, i < p → p ≤ j → log[p]? = some moment → moment.place = some place →
    moment.answer = some .done → moment.since ≤ i
  answered : ∀ p moment, i < p → p ≤ j → log[p]? = some moment → moment.place = some place →
    moment.answer = none → ∃ q other, p < q ∧ q ≤ j ∧ log[q]? = some other ∧ other.since = p
  enclosing : ∀ p moment, i < p → p ≤ j → log[p]? = some moment → moment.place = some place →
    moment.since ≤ i → moment.answer = some .done

namespace Course

variable {log : List Moment} {place : Place} {now last i j : Nat} {held final : Option EntityRef}
  {first moment : Moment}

theorem le (course : Course log place now held last final) : now ≤ last := by
  induction course with
  | rest => exact Nat.le_refl _
  | unheard _ _ _ _ _ ih => omega
  | heard _ _ _ _ _ _ _ _ _ _ _ _ ihDuring ihLater => omega

theorem since_ge (course : Course log place now held last final) (begun : now ≤ i) (below : i < last)
    (here : log[i]? = some moment) : now ≤ moment.since := by
  induction course with
  | rest => omega
  | @unheard now _ _ _ _ there began _ _ _ ih =>
      by_cases same : i = now
      · subst same
        cases here.symm.trans there
        omega
      · have := ih (by omega) below
        omega
  | @heard now _ stop _ _ _ _ _ there began _ during atStop same _ _ _ _ _ _ ihDuring ihLater =>
      have := during.le
      by_cases same : i = now
      · subst same
        cases here.symm.trans there
        omega
      · rcases Nat.lt_trichotomy i stop with inside | rfl | beyond
        · have := ihDuring (by omega) inside
          omega
        · cases here.symm.trans atStop
          omega
        · have := ihLater (by omega) below
          omega

theorem ends (course : Course log place now held last final)
    (unacknowledged : ∀ p moment, now ≤ p → p < last → log[p]? = some moment →
      moment.place = some place → moment.answer ≠ some .done) : final = held := by
  induction course with
  | rest => rfl
  | unheard _ _ _ _ _ ih =>
      exact ih fun p moment begun below => unacknowledged p moment (by omega) below
  | @heard now held stop inner last final hearing moment _ _ _ during there _ _ ofCall apart kept
      restored later ihDuring ihLater =>
      have := during.le
      have := later.le
      rw [ihLater fun p moment begun below => unacknowledged p moment (by omega) below]
      by_cases own : moment.place = some place
      · exact restored own (unacknowledged stop moment (by omega) (by omega) there own)
      · rw [kept fun same => (own same).elim,
          ihDuring fun p moment begun below => unacknowledged p moment (by omega) (by omega),
          apart (ofCall ▸ own)]

theorem holds (course : Course log place now held last final) (begun : now ≤ j) (below : j < last)
    (here : log[j]? = some moment)
    (unacknowledged : ∀ p moment, now ≤ p → p ≤ j → log[p]? = some moment →
      moment.place = some place → moment.answer ≠ some .done)
    (answered : ∀ p moment, now ≤ p → p ≤ j → log[p]? = some moment → moment.place = some place →
      moment.answer = none → ∃ q other, p < q ∧ q ≤ j ∧ log[q]? = some other ∧ other.since = p) :
    moment.contents place = held := by
  induction course with
  | rest => omega
  | @unheard now held last final head there _ _ holds later ih =>
      by_cases same : j = now
      · subst same
        cases here.symm.trans there
        exact holds
      · exact ih (by omega) below
          (fun p moment begun => unacknowledged p moment (by omega))
          (fun p moment begun => answered p moment (by omega))
  | @heard now held stop inner last final hearing closing there began unanswered during atStop same
      closed ofCall apart kept restored later ihDuring ihLater =>
      have := during.le
      by_cases early : j < stop
      · -- the call itself is still being heard of, so it is no write of the place
        have foreign : hearing.place ≠ some place := by
          intro own
          obtain ⟨q, other, after, early, found, since⟩ :=
            answered now hearing (Nat.le_refl _) begun there own unanswered
          have := during.since_ge (by omega) (by omega) found
          omega
        by_cases first : j = now
        · subst first
          cases here.symm.trans there
          exact apart foreign
        · exact (ihDuring (by omega) early
            (fun p moment begun => unacknowledged p moment (by omega))
            (fun p moment begun => answered p moment (by omega))).trans (apart foreign)
      · have closes : closing.contents place = held := by
          by_cases own : closing.place = some place
          · exact restored own (unacknowledged stop closing (by omega) (by omega) atStop own)
          · rw [kept fun same => (own same).elim,
              during.ends fun p moment begun below => unacknowledged p moment (by omega) (by omega),
              apart (ofCall ▸ own)]
        by_cases atEnd : j = stop
        · subst atEnd
          cases here.symm.trans atStop
          exact closes
        · exact (ihLater (by omega) below
            (fun p moment begun => unacknowledged p moment (by omega))
            (fun p moment begun => answered p moment (by omega))).trans closes

theorem ends_after (course : Course log place now held last final) (after : i < now)
    (acknowledged : ∀ p moment, i < p → p < last → log[p]? = some moment →
      moment.place = some place → moment.answer = some .done → moment.since ≤ i) : final = held := by
  refine course.ends fun p moment begun below found own done => ?_
  have := acknowledged p moment (by omega) below found own done
  have := course.since_ge begun below found
  omega

theorem holds_after (course : Course log place now held last final) (after : i < now)
    (begun : now ≤ j) (below : j < last) (here : log[j]? = some moment)
    (unwritten : Unwritten log place i j) : moment.contents place = held := by
  refine course.holds begun below here (fun p other inside early found own done => ?_)
    fun p other inside early found own => unwritten.answered p other (by omega) early found own
  have := unwritten.acknowledged p other (by omega) early found own done
  have := course.since_ge inside (by omega) found
  omega

theorem lasts_end (course : Course log place now held last final) (begun : now ≤ i) (below : i < last)
    (here : log[i]? = some first)
    (acknowledged : ∀ p moment, i < p → p < last → log[p]? = some moment →
      moment.place = some place → moment.answer = some .done → moment.since ≤ i)
    (enclosing : ∀ p moment, i < p → p < last → log[p]? = some moment → moment.place = some place →
      moment.since ≤ i → moment.answer = some .done) : final = first.contents place := by
  induction course with
  | rest => omega
  | @unheard now held last final head there _ _ holds later ih =>
      by_cases same : i = now
      · subst same
        cases here.symm.trans there
        exact (later.ends_after (Nat.lt_succ_self i) acknowledged).trans holds.symm
      · exact ih (by omega) below acknowledged enclosing
  | @heard now held stop inner last final hearing closing there began _ during atStop same _ _ _ kept _
      later ihDuring ihLater =>
      have := during.le
      have := later.le
      have fromStop : i ≤ stop → final = closing.contents place := fun early =>
        later.ends_after (by omega) acknowledged
      rcases Nat.lt_trichotomy i stop with inside | rfl | beyond
      · -- the call was being heard of at the moment, so it is kept
        have closes : closing.contents place = inner := kept fun own =>
          enclosing stop closing inside (by omega) atStop own (by omega)
        have reaches : inner = first.contents place := by
          by_cases atStart : i = now
          · subst atStart
            cases here.symm.trans there
            exact during.ends_after (Nat.lt_succ_self i)
              fun p moment after below => acknowledged p moment after (by omega)
          · exact ihDuring (by omega) inside
              (fun p moment after below => acknowledged p moment after (by omega))
              (fun p moment after below => enclosing p moment after (by omega))
        rw [fromStop (by omega), closes, reaches]
      · cases here.symm.trans atStop
        exact fromStop (Nat.le_refl _)
      · exact ihLater beyond below acknowledged enclosing

theorem during_lasts {stop : Nat} {inner : Option EntityRef} {hearing : Moment}
    (during : Course log place (now + 1) (hearing.contents place) stop inner)
    (atNow : log[now]? = some hearing) (begun : now ≤ i) (inside : i < stop)
    (here : log[i]? = some first) (unwritten : Unwritten log place i j) (ordered : stop ≤ j) :
    inner = first.contents place := by
  have acknowledged := fun p moment (after : i < p) (below : p < stop) =>
    unwritten.acknowledged p moment after (by omega)
  by_cases atStart : i = now
  · subst atStart
    cases here.symm.trans atNow
    exact during.ends_after (Nat.lt_succ_self i) acknowledged
  · exact during.lasts_end (by omega) inside here acknowledged
      fun p moment after below => unwritten.enclosing p moment after (by omega)

/-- What the place holds at a moment it holds at a later one. -/
theorem lasts {later : Moment} (course : Course log place now held last final) (begun : now ≤ i)
    (ordered : i ≤ j) (below : j < last) (here : log[i]? = some first) (there : log[j]? = some later)
    (unwritten : Unwritten log place i j) : later.contents place = first.contents place := by
  induction course with
  | rest => omega
  | @unheard now held last final head atNow _ _ holds rest ih =>
      by_cases same : i = now
      · subst same
        cases here.symm.trans atNow
        by_cases atOnce : j = i
        · subst atOnce
          cases here.symm.trans there
          rfl
        · exact (rest.holds_after (Nat.lt_succ_self i) (by omega) below there unwritten).trans
            holds.symm
      · exact ih (by omega) below
  | @heard now held stop inner last final hearing closing atNow began _ during atStop same _ _ _ kept _
      rest ihDuring ihRest =>
      have := during.le
      by_cases inside : j < stop
      · by_cases atStart : i = now
        · subst atStart
          cases here.symm.trans atNow
          by_cases atOnce : j = i
          · subst atOnce
            cases here.symm.trans there
            rfl
          · exact during.holds_after (Nat.lt_succ_self i) (by omega) inside there unwritten
        · exact ihDuring (by omega) inside
      · by_cases beyond : stop < i
        · exact ihRest beyond below
        · have closes : closing.contents place = first.contents place := by
            by_cases early : i < stop
            · -- the call was being heard of at the moment, so it is kept
              rw [kept fun own => unwritten.enclosing stop closing early (by omega) atStop own (by omega)]
              exact during.during_lasts atNow begun early here unwritten (by omega)
            · obtain rfl : i = stop := by omega
              cases here.symm.trans atStop
              rfl
          by_cases atEnd : j = stop
          · subst atEnd
            cases there.symm.trans atStop
            exact closes
          · exact (rest.holds_after (by omega) (by omega) below there unwritten).trans closes

theorem extend {longer : List Moment} (course : Course log place now held last final)
    (grows : log <+: longer) : Course longer place now held last final := by
  have still : ∀ {index : Nat} {moment : Moment}, log[index]? = some moment →
      longer[index]? = some moment := by
    intro index moment here
    obtain ⟨more, rfl⟩ := grows
    exact (List.getElem?_append_left (List.getElem?_eq_some_iff.mp here).1).trans here
  induction course with
  | rest => exact .rest
  | unheard here began closed holds _ ih => exact .unheard (still here) began closed holds ih
  | heard here began unanswered _ there same closed ofCall apart kept restored _ ihDuring ihLater =>
      exact .heard (still here) began unanswered ihDuring (still there) same closed ofCall apart kept
        restored ihLater

end Course

/-- What happens from one estate to another is told by the log. -/
structure Told (place : Place) (before after : Estate (List Moment)) : Prop where
  grows : before.outside <+: after.outside
  made : ∀ model, (before.model? model).isSome → (after.model? model).isSome
  course : Course after.outside place before.outside.length (before.heldAt place)
    after.outside.length (after.heldAt place)

namespace Told

variable {place : Place} {call : Call} {estate found after final : Estate (List Moment)}

theorem last_of_prefix {log longer : List Moment} {moment : Moment}
    (grows : log ++ [moment] <+: longer) : longer[log.length]? = some moment := by
  obtain ⟨more, rfl⟩ := grows
  simp

theorem length_note (estate : Estate (List Moment)) (written : Option Place) (since : Nat)
    (answer : Option Call.Answer) :
    (estate.note call written since answer).outside.length = estate.outside.length + 1 :=
  List.length_append

theorem unheard {answer : Call.Answer} (becomes : estate.Becomes after estate.contents)
    (later : Told place (after.note call (call.place estate) estate.outside.length (some answer))
      final) : Told place estate final where
  grows := by
    rw [← becomes.outside]
    exact (List.prefix_append _ _).trans later.grows
  made model isMade := later.made model (becomes.made model isMade)
  course := by
    have same : after.heldAt place = estate.heldAt place := becomes.stored _ _ _
    have here := last_of_prefix later.grows
    have rest := later.course
    rw [length_note] at rest
    rw [becomes.outside] at here rest
    exact .unheard here rfl rfl same (same ▸ rest)

theorem heard {outcome : Call.Answer × Estate (List Moment)} (begins : call.Begins estate found)
    (during : Told place (found.note call (call.place estate) estate.outside.length none) after)
    (ends : call.Ends estate after outcome)
    (later : Told place (outcome.2.note call (call.place estate) estate.outside.length
      (some outcome.1)) final) : Told place estate final where
  grows := by
    rw [← begins.outside]
    refine ((List.prefix_append _ _).trans during.grows).trans ?_
    rw [← ends.outside]
    exact (List.prefix_append _ _).trans later.grows
  made model isMade :=
    later.made model (ends.made model (during.made model (begins.made model isMade)))
  course := by
    have grows : after.outside <+: final.outside := by
      rw [← ends.outside]
      exact (List.prefix_append _ _).trans later.grows
    have here := last_of_prefix (during.grows.trans grows)
    have inner := during.course.extend grows
    have there := last_of_prefix later.grows
    have rest := later.course
    rw [length_note] at inner rest
    rw [begins.outside] at here inner
    rw [ends.outside] at there rest
    exact .heard here rfl rfl inner there rfl rfl rfl (begins.apart place)
      (fun done => ends.kept place fun own => Option.some.inj (done own))
      (fun own undone => ends.restored place own fun done => undone (congrArg some done)) rest

end Told

theorem Script.keep_told (script : Script) (place : Place) (estate : Estate (List Moment)) :
    Told place estate (script.keep estate) := by
  induction script generalizing estate with
  | done => exact ⟨List.prefix_rfl, fun _ isMade => isMade, .rest⟩
  | call wanted inner verdict rest ihInner ihRest =>
      rcases wanted.perform_hears estate with
        ⟨after, same, becomes⟩ | ⟨sink, event, found, begins, ends⟩
      · have quiet := same
          (noticing wanted (wanted.place estate) estate.outside.length verdict inner.keep)
        rw [keep]
        rw [← quiet] at becomes
        exact .unheard becomes (ihRest _)
      · have during := ihInner (found.note wanted (wanted.place estate) estate.outside.length none)
        exact .heard begins during (ends (noticing _ _ _ verdict inner.keep) during.made) (ihRest _)

/-- In every run, with any sinks that call back: what a place of a store holds at one moment it holds at every
later one, unless a write of it that began in between is acknowledged or still being heard of, or one that was
being heard of is refused. -/
theorem acknowledged_writes_last (script : Script) (estate : Estate (List Moment))
    (fresh : estate.outside = []) (place : Place) {i j : Nat} {first later : Moment}
    (ordered : i ≤ j) (here : (script.keep estate).outside[i]? = some first)
    (there : (script.keep estate).outside[j]? = some later)
    (unwritten : Unwritten (script.keep estate).outside place i j) :
    later.contents place = first.contents place := by
  have told := script.keep_told place estate
  have below := (List.getElem?_eq_some_iff.mp there).1
  exact told.course.lasts (by rw [fresh]; exact Nat.zero_le i) ordered below here there unwritten

def rivals : Estate (List Moment) :=
  { Estate.empty [] with
    models := [.new (.made 0)]
    entities := List.replicate 3 (.new ⟨0⟩ .node (.repeating 1)) }

def spot : Place := ⟨⟨0⟩, .node, .repeating 1⟩

def contended : Script :=
  .call (.add ⟨0⟩ ⟨0⟩) (.call (.add ⟨0⟩ ⟨1⟩) .done (.ok ()) .done) (.ok ())
    (.call (.delete ⟨0⟩ .node (.repeating 1)) (.call (.find ⟨0⟩ .node (.repeating 1)) .done (.ok ()) .done)
      (.error (.unsupportedPayload "node")) .done)

theorem contended_lasts :
    ∃ first later, rivals.outside = [] ∧ (contended.keep rivals).outside[2]? = some first ∧
      (contended.keep rivals).outside[6]? = some later ∧
      Unwritten (contended.keep rivals).outside spot 2 6 ∧
      first.call = .add ⟨0⟩ ⟨1⟩ ∧ first.answer = some .done ∧ first.contents spot = some ⟨1⟩ ∧
      later.contents spot = first.contents spot := by
  have unwritten : Unwritten (contended.keep rivals).outside spot 2 6 := by
    constructor
    · intro p moment after early here own done
      have each : p = 3 ∨ p = 4 ∨ p = 5 ∨ p = 6 := by omega
      rcases each with rfl | rfl | rfl | rfl
      all_goals cases here
      · exact Nat.zero_le 2
      all_goals cases done
    · intro p moment after early here own done
      have each : p = 3 ∨ p = 4 ∨ p = 5 ∨ p = 6 := by omega
      rcases each with rfl | rfl | rfl | rfl
      all_goals cases here
      · cases done
      · exact ⟨6, _, by decide, by decide, rfl, rfl⟩
      · cases done
      · cases done
    · intro p moment after early here own since
      have each : p = 3 ∨ p = 4 ∨ p = 5 ∨ p = 6 := by omega
      rcases each with rfl | rfl | rfl | rfl
      all_goals cases here
      · rfl
      · exact absurd since (by decide)
      · cases own
      · exact absurd since (by decide)
  exact ⟨_, _, rfl, rfl, rfl, unwritten, rfl, rfl, rfl,
    acknowledged_writes_last contended rivals rfl spot (by decide) rfl rfl unwritten⟩

def contested : Script :=
  .call (.add ⟨0⟩ ⟨0⟩) .done (.ok ())
    (.call (.add ⟨0⟩ ⟨1⟩) (.call (.add ⟨0⟩ ⟨2⟩) .done (.ok ()) .done)
      (.error (.unsupportedPayload "node")) .done)

/-- The first node was stored with success, and yet the second is seen in its place before that is refused;
and the third, which was stored with success too, is gone when the second is refused. -/
theorem nested_write_undone :
    ∃ stored hearing nested refused, (contested.keep rivals).outside[1]? = some stored ∧
      (contested.keep rivals).outside[2]? = some hearing ∧
      (contested.keep rivals).outside[4]? = some nested ∧
      (contested.keep rivals).outside[5]? = some refused ∧
      (stored.call = .add ⟨0⟩ ⟨0⟩ ∧ stored.answer = some .done ∧ stored.contents spot = some ⟨0⟩) ∧
      (hearing.call = .add ⟨0⟩ ⟨1⟩ ∧ hearing.answer = none ∧ hearing.contents spot = some ⟨1⟩) ∧
      (nested.call = .add ⟨0⟩ ⟨2⟩ ∧ nested.answer = some .done ∧ nested.contents spot = some ⟨2⟩) ∧
      (refused.call = .add ⟨0⟩ ⟨1⟩ ∧
        refused.answer = some (.refused (.event (.unsupportedPayload "node"))) ∧
        refused.contents spot = some ⟨0⟩) := by
  exact ⟨_, _, _, _, rfl, rfl, rfl, rfl, ⟨rfl, rfl, rfl⟩, ⟨rfl, rfl, rfl⟩, ⟨rfl, rfl, rfl⟩, rfl, rfl,
    rfl⟩

end Landscape

