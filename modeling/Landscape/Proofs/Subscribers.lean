import Landscape.Manager
import Mathlib.Data.List.Nodup

/-!
The subscribers of a manager as its history has them. A history lists what the manager was told, each with
its answer, and says by itself who is subscribed: whoever was added and not taken off since. An addition
enters a subscriber if it was not subscribed by then, and subscribers stand in the order in which they
entered last. So nobody is listed twice, and to take off the first place of a subscriber is to take it off.
-/

namespace Landscape.Manager

inductive Instruction where
  | subscribe (url : String)
  | unsubscribe (url : String)
  | increment
  | refit (factory : SinkFactory)
  deriving DecidableEq

structure Answered where
  instruction : Instruction
  answer : Except EventError Unit

def follow (instruction : Instruction) (manager : Manager) : Except EventError Unit × Manager :=
  match instruction with
  | .subscribe url => (.ok (), manager.subscribe url)
  | .unsubscribe url => match manager.unsubscribe url with
    | .ok after => (.ok (), after)
    | .error refusal => (.error refusal, manager)
  | .increment => (.ok (), manager.increment)
  | .refit factory => (.ok (), { manager with factory })

def followed : List Instruction → Manager → Manager
  | [], manager => manager
  | instruction :: rest, manager => followed rest (manager.follow instruction).2

def history : List Instruction → Manager → List Answered
  | [], _ => []
  | instruction :: rest, manager =>
      ⟨instruction, (manager.follow instruction).1⟩ :: history rest (manager.follow instruction).2

def added (url : String) : Answered := ⟨.subscribe url, .ok ()⟩

def takenOff (url : String) : Answered := ⟨.unsubscribe url, .ok ()⟩

/-- The subscriber was added, and was not taken off since. -/
def Listed (history : List Answered) (url : String) : Prop :=
  ∃ former later, history = former ++ added url :: later ∧ takenOff url ∉ later

/-- The subscriber was added here, and was not listed before. -/
def Enters (history : List Answered) (url : String) (index : Nat) : Prop :=
  history[index]? = some (added url) ∧ ¬ Listed (history.take index) url

def EntersLast (history : List Answered) (url : String) (index : Nat) : Prop :=
  Enters history url index ∧ ∀ other, Enters history url other → other ≤ index

def Before (history : List Answered) (first second : String) : Prop :=
  ∃ former latter, EntersLast history first former ∧ EntersLast history second latter ∧
    former < latter

/-- The list of subscribers that a history leaves. -/
structure Roster (history : List Answered) (urls : List String) : Prop where
  nodup : urls.Nodup
  listed : ∀ url, url ∈ urls ↔ Listed history url
  entered : ∀ url ∈ urls, ∃ index, EntersLast history url index
  ordered : urls.Pairwise (Before history)

variable {past : List Answered} {entry : Answered} {url : String} {index : Nat}
  {urls : List String}

theorem listed_append : Listed (past ++ [entry]) url ↔
    entry = added url ∨ (Listed past url ∧ entry ≠ takenOff url) := by
  constructor
  · rintro ⟨former, later, split, stays⟩
    rcases List.eq_nil_or_concat' later with rfl | ⟨between, last, rfl⟩
    · obtain ⟨_, same⟩ := List.append_inj' split rfl
      exact .inl (List.singleton_inj.mp same)
    · have shifted : past ++ [entry] = (former ++ added url :: between) ++ [last] := by
        simpa using split
      obtain ⟨rfl, same⟩ := List.append_inj' shifted rfl
      obtain rfl := List.singleton_inj.mp same
      rw [List.mem_append, not_or, List.mem_singleton] at stays
      exact .inr ⟨⟨former, between, rfl, stays.1⟩, Ne.symm stays.2⟩
  · rintro (rfl | ⟨⟨former, later, rfl, stays⟩, other⟩)
    · exact ⟨past, [], rfl, List.not_mem_nil⟩
    · refine ⟨former, later ++ [entry], by simp, ?_⟩
      simp [stays, Ne.symm other]

theorem enters_append : Enters (past ++ [entry]) url index ↔
    Enters past url index ∨
      (index = past.length ∧ entry = added url ∧ ¬ Listed past url) := by
  unfold Enters
  rcases Nat.lt_trichotomy index past.length with former | rfl | beyond
  · rw [List.getElem?_append_left former, List.take_append_of_le_length (Nat.le_of_lt former)]
    simp [Nat.ne_of_lt former]
  · rw [List.getElem?_concat_length, List.take_left]
    simp
  · have outside : (past ++ [entry]).length ≤ index := by
      rw [List.length_append, List.length_singleton]
      exact beyond
    rw [List.getElem?_eq_none outside, List.getElem?_eq_none (Nat.le_of_lt beyond)]
    simp [Nat.ne_of_gt beyond]

theorem enters_lt (enters : Enters past url index) : index < past.length :=
  (List.getElem?_eq_some_iff.mp enters.1).1

theorem entersLast_append (idle : entry = added url → Listed past url) :
    EntersLast (past ++ [entry]) url index ↔ EntersLast past url index := by
  have same : ∀ place, Enters (past ++ [entry]) url place ↔ Enters past url place := by
    intro place
    rw [enters_append]
    constructor
    · rintro (before | ⟨_, adds, unlisted⟩)
      · exact before
      · exact absurd (idle adds) unlisted
    · exact .inl
  simp only [EntersLast, same]

theorem entersLast_length (unlisted : ¬ Listed past url) :
    EntersLast (past ++ [added url]) url past.length := by
  refine ⟨enters_append.mpr (.inr ⟨rfl, rfl, unlisted⟩), ?_⟩
  intro other enters
  rcases enters_append.mp enters with before | ⟨rfl, _⟩
  · exact Nat.le_of_lt (enters_lt before)
  · exact Nat.le_refl _

theorem before_append {first second : String} (idle : entry = added first → Listed past first)
    (alsoIdle : entry = added second → Listed past second) :
    Before (past ++ [entry]) first second ↔ Before past first second := by
  simp only [Before, entersLast_append idle, entersLast_append alsoIdle]

theorem roster_nil : Roster [] [] where
  nodup := List.nodup_nil
  listed url := by simp [Listed]
  entered url member := by cases member
  ordered := List.Pairwise.nil

theorem Roster.narrowed (roster : Roster past urls) {left : List String} (fewer : left.Sublist urls)
    (listed : ∀ url, url ∈ left ↔ Listed (past ++ [entry]) url) : Roster (past ++ [entry]) left where
  nodup := roster.nodup.sublist fewer
  listed := listed
  entered url member := by
    have former := fewer.subset member
    obtain ⟨index, last⟩ := roster.entered url former
    exact ⟨index, (entersLast_append fun _ => (roster.listed url).mp former).mpr last⟩
  ordered := by
    apply (roster.ordered.sublist fewer).imp_of_mem
    intro first second here there before
    have former := (roster.listed first).mp (fewer.subset here)
    have latter := (roster.listed second).mp (fewer.subset there)
    exact (before_append (fun _ => former) (fun _ => latter)).mpr before

theorem Roster.idle (roster : Roster past urls) (adds : ∀ url, entry = added url → url ∈ urls)
    (stays : ∀ url ∈ urls, entry ≠ takenOff url) : Roster (past ++ [entry]) urls := by
  apply roster.narrowed (List.Sublist.refl urls)
  intro url
  rw [listed_append, ← roster.listed]
  constructor
  · intro member
    exact .inr ⟨member, stays url member⟩
  · rintro (new | ⟨member, _⟩)
    · exact adds url new
    · exact member

theorem Roster.extended (roster : Roster past urls) (fresh : url ∉ urls) :
    Roster (past ++ [added url]) (urls ++ [url]) where
  nodup := by
    refine roster.nodup.append (List.nodup_singleton url) ?_
    intro other member same
    exact fresh (List.mem_singleton.mp same ▸ member)
  listed other := by
    rw [listed_append, ← roster.listed, List.mem_append, List.mem_singleton]
    have apart : added url ≠ takenOff other := by simp [added, takenOff]
    have same : added url = added other ↔ other = url := by simp [added, eq_comm]
    simp only [apart, same, ne_eq, not_false_eq_true, and_true]
    exact or_comm
  entered other member := by
    rcases List.mem_append.mp member with former | last
    · obtain ⟨index, entered⟩ := roster.entered other former
      exact ⟨index, (entersLast_append fun _ => (roster.listed other).mp former).mpr entered⟩
    · obtain rfl := List.mem_singleton.mp last
      exact ⟨past.length, entersLast_length fun listed => fresh ((roster.listed other).mpr listed)⟩
  ordered := by
    have unlisted : ¬ Listed past url := fun listed => fresh ((roster.listed url).mpr listed)
    rw [List.pairwise_append]
    refine ⟨?_, List.pairwise_singleton _ url, ?_⟩
    · apply roster.ordered.imp_of_mem
      intro first second here there before
      exact (before_append (fun _ => (roster.listed first).mp here)
        (fun _ => (roster.listed second).mp there)).mpr before
    · intro other member last isLast
      obtain rfl := List.mem_singleton.mp isLast
      obtain ⟨index, entered⟩ := roster.entered other member
      refine ⟨index, past.length, ?_, entersLast_length unlisted, enters_lt entered.1⟩
      exact (entersLast_append fun _ => (roster.listed other).mp member).mpr entered

variable {manager : Manager}

theorem follow_subscribe (url : String) (manager : Manager) :
    manager.follow (.subscribe url) = (.ok (), { manager with
      subscribers := if url ∈ manager.subscribers then manager.subscribers
        else manager.subscribers ++ [url] }) := by
  by_cases member : url ∈ manager.subscribers
  · simp [follow, subscribe, member]
  · simp [follow, subscribe, member]

theorem follow_unsubscribe (nodup : manager.subscribers.Nodup) (url : String) :
    manager.follow (.unsubscribe url) =
      if url ∈ manager.subscribers
      then (.ok (), { manager with subscribers := manager.subscribers.filter (· ≠ url) })
      else (.error (.subscriberNotFound url), manager) := by
  by_cases member : url ∈ manager.subscribers
  · have without : manager.subscribers.erase url = manager.subscribers.filter (· ≠ url) := by
      rw [nodup.erase_eq_filter]
      apply List.filter_congr
      intro other _
      by_cases same : other = url <;> simp [same]
    simp [follow, unsubscribe, member, without]
  · simp [follow, unsubscribe, member]

/-- What a manager answers is one more entry of its history, and its subscribers keep to it. -/
theorem roster_follow (roster : Roster past manager.subscribers) (instruction : Instruction) :
    Roster (past ++ [⟨instruction, (manager.follow instruction).1⟩])
      (manager.follow instruction).2.subscribers := by
  cases instruction with
  | subscribe url =>
      rw [follow_subscribe]
      by_cases member : url ∈ manager.subscribers
      · simp only [if_pos member]
        apply roster.idle
        · rintro other ⟨⟩
          exact member
        · rintro other _ ⟨⟩
      · simp only [if_neg member]
        exact roster.extended member
  | unsubscribe url =>
      rw [follow_unsubscribe roster.nodup]
      by_cases member : url ∈ manager.subscribers
      · simp only [if_pos member]
        apply roster.narrowed List.filter_sublist
        intro other
        have apart : takenOff url ≠ added other := by simp [added, takenOff]
        have same : takenOff url = takenOff other ↔ other = url := by
          simp only [takenOff, Answered.mk.injEq, Instruction.unsubscribe.injEq, and_true]
          exact eq_comm
        change other ∈ manager.subscribers.filter (· ≠ url) ↔ Listed (past ++ [takenOff url]) other
        rw [listed_append, ← roster.listed, List.mem_filter, ne_eq (takenOff url), same]
        simp [apart]
      · simp only [if_neg member]
        apply roster.idle
        · rintro other ⟨⟩
        · rintro other _ ⟨⟩
  | increment | refit =>
      apply roster.idle
      · rintro other ⟨⟩
      · rintro other _ ⟨⟩

theorem roster_followed (roster : Roster past manager.subscribers)
    (instructions : List Instruction) :
    Roster (past ++ history instructions manager) (followed instructions manager).subscribers := by
  -- the past is carried along, since who is listed depends on all of it
  induction instructions generalizing past manager with
  | nil =>
      rw [history, List.append_nil]
      exact roster
  | cons instruction rest ih =>
      have later := ih (roster_follow roster instruction)
      rw [List.append_assoc] at later
      exact later

theorem follow_sequence (instruction : Instruction) (manager : Manager) :
    (manager.follow instruction).2.sequence =
      if instruction = .increment then manager.sequence + 1 else manager.sequence := by
  cases instruction with
  | subscribe url =>
      rw [follow_subscribe]
      rfl
  | unsubscribe url =>
      by_cases member : url ∈ manager.subscribers
      · simp [follow, unsubscribe, member]
      · simp [follow, unsubscribe, member]
  | increment | refit => rfl

theorem followed_sequence (instructions : List Instruction) (manager : Manager) :
    (followed instructions manager).sequence =
      manager.sequence + UInt64.ofNat (instructions.count .increment) := by
  induction instructions generalizing manager with
  | nil => simp [followed]
  | cons instruction rest ih =>
      rw [followed, ih, follow_sequence, List.count_cons]
      by_cases increments : instruction = .increment
      · simp [increments, UInt64.ofNat_add, UInt64.add_assoc, UInt64.add_comm 1]
      · simp [increments]

/-- Whatever a manager is told from the start, its subscribers are those that its history has as added and
not taken off since, each of them once and in the order in which they entered last. At any time another
addition puts a new subscriber at the end and leaves a list that has it alone. To take off a subscriber
leaves all others as they stood, and one that is not listed is refused by its name and changes nothing. The
sequence number counts the increments, so neither moves it. -/
theorem subscribers_by_history (factory : SinkFactory) (instructions : List Instruction) :
    let history := history instructions (new factory)
    let manager := followed instructions (new factory)
    Roster history manager.subscribers ∧
      manager.sequence = UInt64.ofNat (instructions.count .increment) ∧
      ∀ url,
        manager.follow (.subscribe url) = (.ok (), { manager with
          subscribers := if url ∈ manager.subscribers then manager.subscribers
            else manager.subscribers ++ [url] }) ∧
        manager.follow (.unsubscribe url) =
          if url ∈ manager.subscribers
          then (.ok (), { manager with subscribers := manager.subscribers.filter (· ≠ url) })
          else (.error (.subscriberNotFound url), manager) := by
  intro history manager
  have start : Roster [] (new factory).subscribers := roster_nil
  have roster : Roster history manager.subscribers := roster_followed start instructions
  refine ⟨roster, ?_, fun url => ⟨follow_subscribe url manager, ?_⟩⟩
  · rw [followed_sequence]
    exact UInt64.zero_add _
  · exact follow_unsubscribe roster.nodup url

example : (followed [.subscribe "a", .subscribe "b", .subscribe "a", .subscribe "c", .unsubscribe "b",
    .subscribe "b"] (new .recording)).subscribers = ["a", "c", "b"] := by decide

end Landscape.Manager
