import Mathlib.Data.List.Basic
import Mathlib.Data.List.Induction
import DialectLoader.Watch

/-!
# What a tick names

A tick goes through the queue event by event, and writes down when a script is acted on as soon as
it names it. The next event of that script sees this time. It makes no difference: without debounce
time the script is named again, which adds nothing, and otherwise it is passed over. So what a tick
names is settled before it starts. It is every script that has rested and whose file was reported,
once each, in the order of the first reports.

An event of a script that has not rested is lost: it is taken from the queue and not kept for later.
-/

namespace DialectLoader.Watch

/-- The scripts whose files were reported, in the order of the events, one entry for each event. -/
def reported (watch : Watch) : List String :=
  watch.queue.filterMap (watch.registered[·]?)

/-- Names a script that has rested and is not named yet; this is what an event comes to. -/
def note (rested : String → Bool) (named : List String) (logical : String) : List String :=
  if logical ∉ named ∧ rested logical = true then named ++ [logical] else named

/-- A watch that has acted on some scripts at a time, and is otherwise as it was but for its
queue. -/
structure Acted (watch : Watch) (now : Nat) (named : List String) (later : Watch) : Prop where
  debounceMs : later.debounceMs = watch.debounceMs
  registered : later.registered = watch.registered
  queue : later.queue = []
  lastAction : ∀ logical : String,
    later.lastAction[logical]? = if logical ∈ named then some now else watch.lastAction[logical]?

variable {watch later : Watch} {now : Nat} {named : List String}

/-- Scripts that were not acted on are as rested as before, so the order of other events does not
matter to them. -/
theorem Acted.isRested (acted : Acted watch now named later) {logical : String}
    (unnamed : logical ∉ named) : later.isRested now logical = watch.isRested now logical := by
  rw [Watch.isRested, acted.lastAction, if_neg unnamed, acted.debounceMs, Watch.isRested]

/-- Writing down that a script is acted on adds it to those that were, unless it is among them. -/
theorem Acted.insert (acted : Acted watch now named later) (logical : String) :
    Acted watch now (if logical ∈ named then named else named ++ [logical])
      { later with lastAction := later.lastAction.insert logical now } where
  debounceMs := acted.debounceMs
  registered := acted.registered
  queue := acted.queue
  lastAction := by
    intro other
    rw [Std.ExtTreeMap.getElem?_insert, acted.lastAction]
    by_cases here : logical = other
    · subst here
      by_cases member : logical ∈ named <;> simp [member]
    · have elsewhere : other ∈ (if logical ∈ named then named else named ++ [logical]) ↔
          other ∈ named := by
        split <;> simp [Ne.symm here]
      simp [here, elsewhere]

/-- Handling an event names its script, if there is one that has rested since before the tick. -/
theorem Acted.handle (acted : Acted watch now named later) (event : List String) :
    (handle now (named, later) event).1 =
        (watch.registered[event]?).toList.foldl (note (watch.isRested now)) named ∧
      Acted watch now (handle now (named, later) event).1 (handle now (named, later) event).2 := by
  have known : watch.registered[event]? = later.registered[event]? := by rw [acted.registered]
  simp only [Watch.handle, known]
  cases later.registered[event]? with
  | none => exact ⟨rfl, acted⟩
  | some logical =>
    simp only [Option.toList_some, List.foldl_cons, List.foldl_nil, List.contains_iff_mem]
    by_cases member : logical ∈ named
    · have unnoted : note (watch.isRested now) named logical = named := if_neg fun fresh =>
        fresh.1 member
      -- Whether it has rested or not since it was named, it is not named again.
      split
      · have again := acted.insert logical
        simp only [if_pos member] at again ⊢
        exact ⟨unnoted.symm, again⟩
      · exact ⟨unnoted.symm, acted⟩
    · rw [acted.isRested member]
      split <;> rename_i rested
      · have first := acted.insert logical
        simp only [if_neg member] at first ⊢
        exact ⟨(if_pos ⟨member, rested⟩).symm, first⟩
      · exact ⟨(if_neg fun fresh => rested fresh.2).symm, acted⟩

/-- Handling events one after another names what noting their scripts in order names. The induction
carries what was named so far. -/
theorem Acted.foldl_handle (acted : Acted watch now named later) (events : List (List String)) :
    (events.foldl (Watch.handle now) (named, later)).1 =
        (events.filterMap (watch.registered[·]?)).foldl (note (watch.isRested now)) named ∧
      Acted watch now (events.foldl (Watch.handle now) (named, later)).1
        (events.foldl (Watch.handle now) (named, later)).2 := by
  induction events generalizing named later with
  | nil => exact ⟨rfl, acted⟩
  | cons event rest ih =>
    obtain ⟨first, next⟩ := acted.handle event
    obtain ⟨others, final⟩ := ih next
    refine ⟨?_, final⟩
    rw [List.foldl_cons, others, first, List.filterMap_cons, ← List.foldl_append]
    cases watch.registered[event]? <;> rfl

/-- A tick notes the reported scripts in order, and writes down when it acted on those that it
names. -/
theorem think_acted (watch : Watch) (now : Nat) :
    (watch.think now).1 = watch.reported.foldl (note (watch.isRested now)) [] ∧
      Acted watch now (watch.think now).1 (watch.think now).2 := by
  have before : Acted watch now [] { watch with queue := [] } := ⟨rfl, rfl, rfl, by simp⟩
  exact before.foldl_handle watch.queue

/-- What is noted of some scripts are those that have rested, however often they occur. -/
theorem mem_foldl_note_iff {rested : String → Bool} {scripts : List String} {logical : String} :
    logical ∈ scripts.foldl (note rested) [] ↔ logical ∈ scripts ∧ rested logical = true := by
  induction scripts using List.reverseRecOn with
  | nil => simp
  | append_singleton before last ih =>
    rw [List.foldl_append, List.foldl_cons, List.foldl_nil, note, List.mem_append,
      List.mem_singleton]
    split
    · rename_i fresh
      rw [List.mem_append, List.mem_singleton, ih]
      constructor
      · rintro (⟨member, ready⟩ | rfl)
        · exact ⟨.inl member, ready⟩
        · exact ⟨.inr rfl, fresh.2⟩
      · rintro ⟨member | rfl, ready⟩
        · exact .inl ⟨member, ready⟩
        · exact .inr rfl
    · rename_i stale
      rw [ih]
      refine ⟨fun noted => ⟨.inl noted.1, noted.2⟩, ?_⟩
      rintro ⟨member | rfl, ready⟩
      · exact ⟨member, ready⟩
      · exact ih.mp (by simpa [ready] using stale)

/-- Scripts are noted in the order in which they first occur, and none twice. -/
theorem pairwise_foldl_note (rested : String → Bool) (scripts : List String) :
    (scripts.foldl (note rested) []).Pairwise fun left right =>
    scripts.idxOf left < scripts.idxOf right := by
  induction scripts using List.reverseRecOn with
  | nil => exact .nil
  | append_singleton before last ih =>
    have there {logical : String} (noted : logical ∈ before.foldl (note rested) []) :
        logical ∈ before :=
      (mem_foldl_note_iff.mp noted).1
    have kept : (before.foldl (note rested) []).Pairwise fun left right =>
        (before ++ [last]).idxOf left < (before ++ [last]).idxOf right := by
      refine ih.imp_of_mem fun first second ordered => ?_
      rwa [List.idxOf_append_of_mem (there first), List.idxOf_append_of_mem (there second)]
    rw [List.foldl_append, List.foldl_cons, List.foldl_nil, note]
    split
    · rename_i fresh
      have new : last ∉ before := fun member => fresh.1 (mem_foldl_note_iff.mpr ⟨member, fresh.2⟩)
      refine List.pairwise_append.mpr
        ⟨kept, List.pairwise_singleton _ _, fun logical noted other same => ?_⟩
      rw [List.mem_singleton.mp same, List.idxOf_append_of_mem (there noted),
        List.idxOf_append_of_notMem new]
      exact Nat.lt_of_lt_of_le (List.idxOf_lt_length_of_mem (there noted)) (Nat.le_add_right _ _)
    · exact kept

theorem mem_reported_iff {logical : String} :
    logical ∈ watch.reported ↔ ∃ key ∈ watch.queue, watch.registered[key]? = some logical :=
  List.mem_filterMap

/-- A tick names the scripts that have rested and whose files were reported. What it has named
before makes no difference. -/
theorem mem_think_iff {logical : String} :
    logical ∈ (watch.think now).1 ↔
      (∃ key ∈ watch.queue, watch.registered[key]? = some logical) ∧
      watch.isRested now logical = true := by
  rw [(think_acted watch now).1, mem_foldl_note_iff, mem_reported_iff]

/-- A tick names scripts in the order in which they were first reported, each once. -/
theorem pairwise_think (watch : Watch) (now : Nat) :
    (watch.think now).1.Pairwise fun left right =>
    watch.reported.idxOf left < watch.reported.idxOf right := by
  rw [(think_acted watch now).1]
  exact pairwise_foldl_note _ _

end DialectLoader.Watch
