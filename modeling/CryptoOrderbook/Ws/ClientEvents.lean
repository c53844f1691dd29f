import Mathlib.Data.List.Forall2
import Mathlib.Data.List.Induction
import CryptoOrderbook.Library.Outputs
import CryptoOrderbook.Ws.Client

/-!
# The events of the WebSocket client

The client's environment is a script: the outcome of every connection attempt
and, for each connection, the items of its stream.  The client sends a marker
for every connection but one made by the very first attempt, and then the
texts of the connection up to the item that ends it.

The marker is driven by the backoff counter, which a success resets and every
cycle increments; it is positive exactly when an attempt has been made.
-/

namespace CryptoOrderbook.Client

open CryptoOrderbook.Library
open CryptoOrderbook.Binance

/-! ## Scripts -/

/-- What a stream yields; `none` is its end. -/
abbrev Item := Option (Except String Message)

/-- An attempt to connect, with the items of the stream if it succeeds. -/
inductive Attempt where
  | refused
  | connected (items : List Item)

/-- A close frame, an error and the end of the stream end a connection. -/
def Ends : Item → Bool
  | none | some (.error _) | some (.ok .close) => true
  | some (.ok _) => false

/-- The text of a text frame. -/
def textOf : Item → Option String
  | some (.ok (.text text)) => some text
  | _ => none

/-- The texts received before the item that ends the connection. -/
def framesBeforeEnd : List Item → List String
  | [] => []
  | item :: rest =>
      if Ends item then [] else (textOf item).toList ++ framesBeforeEnd rest

/-- The attempt is over: it was refused, or its stream ends. -/
def Attempt.Ended : Attempt → Prop
  | .refused => True
  | .connected items => ∃ item ∈ items, Ends item = true

/-- The events of one attempt, tagged with its number. -/
def eventsOf (index : Nat) : Attempt → List (Nat × WsEvent)
  | .refused => []
  | .connected items =>
      (if index = 0 then [] else [(index, .reconnected)]) ++
        (framesBeforeEnd items).map fun text => (index, .message text)

/-- The events of a script, attempt by attempt. -/
def eventsFrom (index : Nat) : List Attempt → List (Nat × WsEvent)
  | [] => []
  | attempt :: rest => eventsOf index attempt ++ eventsFrom (index + 1) rest

def expectedEvents (script : List Attempt) : List (Nat × WsEvent) :=
  eventsFrom 0 script

theorem eventsFrom_append
    (index : Nat) (first second : List Attempt) :
    eventsFrom index (first ++ second) =
      eventsFrom index first ++
        eventsFrom (index + first.length) second := by
  induction first generalizing index with
  | nil => rfl
  | cons attempt rest induction =>
      have shift : index + (rest.length + 1) = index + 1 + rest.length := by
        omega
      rw [List.cons_append, eventsFrom, eventsFrom, induction,
        List.append_assoc, List.length_cons, shift]

theorem expectedEvents_snoc (script : List Attempt) (attempt : Attempt) :
    expectedEvents (script ++ [attempt]) =
      expectedEvents script ++ eventsOf script.length attempt := by
  rw [expectedEvents, eventsFrom_append, Nat.zero_add, eventsFrom,
    eventsFrom, List.append_nil]
  rfl

/-! ## Items of one connection -/

/-- On an open connection the texts go on with what is read next. -/
theorem framesBeforeEnd_append
    {items : List Item} (isOpen : ∀ item ∈ items, Ends item = false)
    (rest : List Item) :
    framesBeforeEnd (items ++ rest) =
      framesBeforeEnd items ++ framesBeforeEnd rest := by
  induction items with
  | nil => rfl
  | cons item later induction =>
      rcases List.forall_mem_cons.mp isOpen with ⟨goesOn, laterOpen⟩
      rw [List.cons_append, framesBeforeEnd, framesBeforeEnd, goesOn,
        induction laterOpen]
      exact (List.append_assoc _ _ _).symm

/-- What is read of an ended connection decides its texts. -/
theorem framesBeforeEnd_of_ended
    {items : List Item} (ended : ∃ item ∈ items, Ends item = true)
    (rest : List Item) :
    framesBeforeEnd (items ++ rest) = framesBeforeEnd items := by
  induction items with
  | nil =>
      rcases ended with ⟨item, member, -⟩
      cases member
  | cons item later induction =>
      rw [List.cons_append, framesBeforeEnd, framesBeforeEnd]
      cases ends : Ends item with
      | true => rfl
      | false =>
          have laterEnded : ∃ item ∈ later, Ends item = true := by
            rcases ended with ⟨last, member, lastEnds⟩
            rcases List.mem_cons.mp member with rfl | laterMember
            · rw [ends] at lastEnds
              cases lastEnds
            · exact ⟨last, laterMember, lastEnds⟩
          rw [induction laterEnded]

theorem framesBeforeEnd_prefix
    {read whole : List Item} (isPrefix : read <+: whole) :
    framesBeforeEnd read <+: framesBeforeEnd whole := by
  rcases isPrefix with ⟨rest, rfl⟩
  by_cases ended : ∃ item ∈ read, Ends item = true
  · have same := framesBeforeEnd_of_ended ended rest
    exact ⟨[], (List.append_nil _).trans same.symm⟩
  · have isOpen : ∀ item ∈ read, Ends item = false := by
      intro item member
      cases ends : Ends item with
      | true => exact absurd ⟨item, member, ends⟩ ended
      | false => rfl
    rw [framesBeforeEnd_append isOpen]
    exact List.prefix_append _ _

/-! ## What a run hears and sends -/

/-- Add an item to the stream of the newest connection. -/
def receiveItem (item : Item) : List Attempt → List Attempt
  | [] => []
  | [.connected items] => [.connected (items ++ [item])]
  | attempt :: rest => attempt :: receiveItem item rest

/-- What an interaction tells about the environment. -/
def hear (attempts : List Attempt) : Label → List Attempt
  | .connect true => attempts ++ [.connected []]
  | .connect false => attempts ++ [.refused]
  | .next item => receiveItem item attempts
  | .send _ | .backOff _ | .wake => attempts

/-- The attempts made in a run and the items read from their streams. -/
def heard (labels : List Label) : List Attempt :=
  labels.foldl hear []

/-- The event a step puts into the channel. -/
def delivers (state : State) (label : Label) (_next : State) : List WsEvent :=
  match label with
  | .send true => (sending state).toList
  | _ => []

/-- The events sent in a run, in order. -/
def sentEvents (labels : List Label) : List WsEvent :=
  client.outputs delivers client.init labels

theorem receiveItem_snoc
    (item : Item) (earlier : List Attempt) (items : List Item) :
    receiveItem item (earlier ++ [.connected items]) =
      earlier ++ [.connected (items ++ [item])] := by
  induction earlier with
  | nil => rfl
  | cons attempt rest induction =>
      rw [List.cons_append, List.cons_append, ← induction]
      cases attempt <;> cases rest <;> rfl

theorem heard_snoc (labels : List Label) (label : Label) :
    heard (labels ++ [label]) = hear (heard labels) label :=
  List.foldl_append

/-- Every attempt is over. -/
def AllEnded (attempts : List Attempt) : Prop :=
  ∀ attempt ∈ attempts, attempt.Ended

/-- All attempts but the newest are over, and its stream goes on. -/
def OpenAt (attempts earlier : List Attempt) (items : List Item) : Prop :=
  attempts = earlier ++ [.connected items] ∧ AllEnded earlier ∧
    ∀ item ∈ items, Ends item = false

/-- What each phase says about the attempts made so far. -/
def Place (attempts : List Attempt) (state : State) : Prop :=
  match state.phase with
  | .connecting =>
      AllEnded attempts ∧ (state.attempt = 0 ↔ attempts = [])
  | .announcing => ∃ earlier, OpenAt attempts earlier []
  | .driving | .forwarding _ => ∃ earlier items, OpenAt attempts earlier items
  | .lost | .backingOff _ => AllEnded attempts ∧ attempts ≠ []
  | .exited => True

theorem AllEnded.snoc
    {attempts : List Attempt} {attempt : Attempt}
    (earlier : AllEnded attempts) (ended : attempt.Ended) :
    AllEnded (attempts ++ [attempt]) :=
  List.forall_mem_append.mpr ⟨earlier, List.forall_mem_singleton.mpr ended⟩

theorem AllEnded.connect
    {attempts : List Attempt} (earlier : AllEnded attempts) :
    OpenAt (attempts ++ [.connected []]) attempts [] :=
  ⟨rfl, earlier, by simp⟩

theorem OpenAt.next
    {attempts earlier : List Attempt} {items : List Item} {item : Item}
    (isOpen : OpenAt attempts earlier items) (goesOn : Ends item = false) :
    OpenAt (receiveItem item attempts) earlier (items ++ [item]) := by
  rcases isOpen with ⟨rfl, ended, openItems⟩
  refine ⟨receiveItem_snoc item earlier items, ended, ?_⟩
  exact
    List.forall_mem_append.mpr
      ⟨openItems, List.forall_mem_singleton.mpr goesOn⟩

theorem OpenAt.last
    {attempts earlier : List Attempt} {items : List Item} {item : Item}
    (isOpen : OpenAt attempts earlier items) (ends : Ends item = true) :
    AllEnded (receiveItem item attempts) := by
  rcases isOpen with ⟨rfl, ended, -⟩
  rw [receiveItem_snoc]
  exact ended.snoc ⟨item, by simp, ends⟩

theorem ends_of_leave
    {item : Item} {result : DriveResult}
    (leaves : driveStreamBody item = .leave result) :
    Ends item = true := by
  rcases item with _ | _ | _ | _ | _ | _ | _ <;> first | rfl | cases leaves

theorem goesOn_of_again
    {item : Item} {text : Option String}
    (goesOn : driveStreamBody item = .again text) :
    Ends item = false ∧ textOf item = text := by
  rcases item with _ | _ | _ | _ | _ | _ | _ <;> cases goesOn <;>
    exact ⟨rfl, rfl⟩

theorem Place.step
    {attempts : List Attempt} {state next : State} {label : Label}
    (place : Place attempts state)
    (transition : Transition state label next) :
    Place (hear attempts label) next := by
  cases transition with
  | connect first => exact ⟨_, _, place.1.connect⟩
  | reconnect again => exact ⟨_, place.1.connect⟩
  | refuse => exact ⟨place.1.snoc trivial, by simp [hear]⟩
  | announce =>
      rcases place with ⟨earlier, isOpen⟩
      exact ⟨earlier, [], isOpen⟩
  | receive =>
      rcases place with ⟨earlier, items, isOpen⟩
      exact ⟨earlier, _, isOpen.next rfl⟩
  | ignore ignored =>
      rcases place with ⟨earlier, items, isOpen⟩
      exact ⟨earlier, _, isOpen.next (goesOn_of_again ignored).1⟩
  | lose ended =>
      rcases place with ⟨earlier, items, isOpen⟩
      refine ⟨isOpen.last (ends_of_leave ended), ?_⟩
      rw [hear, isOpen.1, receiveItem_snoc]
      simp
  | forward => exact place
  | announceUndelivered => trivial
  | forwardUndelivered => trivial
  | backOff => exact place
  | wake =>
      refine ⟨place.1, ?_⟩
      exact iff_of_false (saturatingAdd_pos _).ne' place.2

theorem place_of_run
    {labels : List Label} {state : State}
    (run : client.Run labels state) :
    Place (heard labels) state := by
  induction run with
  | start => exact ⟨by simp [AllEnded, heard], by simp [heard, client]⟩
  | snoc run step earlier =>
      rw [heard_snoc]
      exact earlier.step (step_iff.mp step)

/-! ## Every event is accounted for -/

theorem expectedEvents_ofOpen
    {attempts earlier : List Attempt} {items : List Item}
    (isOpen : OpenAt attempts earlier items) (item : Item) :
    expectedEvents (receiveItem item attempts) =
      expectedEvents attempts ++
        (framesBeforeEnd [item]).map fun text =>
          (earlier.length, .message text) := by
  rcases isOpen with ⟨rfl, -, openItems⟩
  rw [receiveItem_snoc, expectedEvents_snoc, expectedEvents_snoc, eventsOf,
    eventsOf, framesBeforeEnd_append openItems, List.map_append,
    List.append_assoc, List.append_assoc]

/--
While the receiver lives, the events sent, with the one being sent, are those
of the attempts made so far.
-/
theorem sent_of_run
    {labels : List Label} {state : State}
    (run : client.Run labels state) (lives : .send false ∉ labels) :
    sentEvents labels ++ (sending state).toList =
      (expectedEvents (heard labels)).map Prod.snd := by
  induction run with
  | start => rfl
  | snoc run step induction =>
      rw [List.mem_append, not_or] at lives
      have sent := induction lives.1
      have place := place_of_run run
      rw [sentEvents, run.outputs_snoc step, ← sentEvents, heard_snoc]
      cases step_iff.mp step with
      | connect first =>
          have nothing := place.2.mp first
          rw [nothing] at sent ⊢
          exact (List.append_nil _).trans sent
      | reconnect again =>
          have something : (heard _).length ≠ 0 :=
            fun none =>
              again.ne' (place.2.mpr (List.length_eq_zero_iff.mp none))
          rw [hear, expectedEvents_snoc, eventsOf, if_neg something,
            List.map_append, ← sent]
          simp [delivers, sending, framesBeforeEnd]
      | refuse =>
          rw [hear, expectedEvents_snoc, eventsOf, List.append_nil, ← sent]
          simp [delivers, sending]
      | announce => simpa [delivers, sending, hear] using sent
      | receive =>
          rcases place with ⟨earlier, items, isOpen⟩
          rw [hear, expectedEvents_ofOpen isOpen, List.map_append, ← sent]
          simp [delivers, sending, framesBeforeEnd, Ends, textOf]
      | ignore ignored =>
          rcases place with ⟨earlier, items, isOpen⟩
          rcases goesOn_of_again ignored with ⟨goesOn, silent⟩
          rw [hear, expectedEvents_ofOpen isOpen, List.map_append, ← sent]
          simp [delivers, sending, framesBeforeEnd, goesOn, silent]
      | lose ended =>
          rcases place with ⟨earlier, items, isOpen⟩
          rw [hear, expectedEvents_ofOpen isOpen, List.map_append, ← sent]
          simp [delivers, sending, framesBeforeEnd, ends_of_leave ended]
      | forward => simpa [delivers, sending, hear] using sent
      | announceUndelivered => exact absurd (by simp) lives.2
      | forwardUndelivered => exact absurd (by simp) lives.2
      | backOff => simpa [delivers, sending, hear] using sent
      | wake => simpa [delivers, sending, hear] using sent

/-! ## Playing a script -/

/-- The attempt as far as the client has read it. -/
inductive Reads : Attempt → Attempt → Prop where
  | refused : Reads .refused .refused
  | connected {read whole : List Item} (isPrefix : read <+: whole) :
      Reads (.connected read) (.connected whole)

/-- The attempts are the first ones of a script, as far as they are read. -/
def Plays (attempts script : List Attempt) : Prop :=
  ∃ played rest, script = played ++ rest ∧ List.Forall₂ Reads attempts played

theorem Reads.eventsOf_eq
    {read whole : Attempt} (reads : Reads read whole) (ended : read.Ended)
    (index : Nat) :
    eventsOf index read = eventsOf index whole := by
  cases reads with
  | refused => rfl
  | connected isPrefix =>
      rcases isPrefix with ⟨rest, rfl⟩
      rw [eventsOf, eventsOf, framesBeforeEnd_of_ended ended]

theorem Reads.eventsOf_prefix
    {read whole : Attempt} (reads : Reads read whole) (index : Nat) :
    eventsOf index read <+: eventsOf index whole := by
  cases reads with
  | refused => exact List.prefix_rfl
  | connected isPrefix =>
      rcases framesBeforeEnd_prefix isPrefix with ⟨rest, extends_⟩
      rw [eventsOf, eventsOf, ← extends_, List.map_append,
        ← List.append_assoc]
      exact List.prefix_append _ _

theorem eventsFrom_eq_of_ended
    {attempts played : List Attempt}
    (reads : List.Forall₂ Reads attempts played)
    (ended : AllEnded attempts) (index : Nat) :
    eventsFrom index attempts = eventsFrom index played := by
  induction reads generalizing index with
  | nil => rfl
  | cons first rest induction =>
      rcases List.forall_mem_cons.mp ended with ⟨firstEnded, restEnded⟩
      rw [eventsFrom, eventsFrom, first.eventsOf_eq firstEnded,
        induction restEnded]

/-- All attempts but the newest one are over. -/
def AllButLastEnded (attempts : List Attempt) : Prop :=
  AllEnded attempts.dropLast

theorem eventsFrom_prefix
    {attempts played : List Attempt}
    (reads : List.Forall₂ Reads attempts played)
    (ended : AllButLastEnded attempts) (index : Nat) :
    eventsFrom index attempts <+: eventsFrom index played := by
  induction reads generalizing index with
  | nil => exact List.nil_prefix
  | cons first rest induction =>
      cases rest with
      | nil =>
          show eventsOf index _ ++ [] <+: eventsOf index _ ++ []
          rw [List.append_nil, List.append_nil]
          exact first.eventsOf_prefix index
      | cons second later =>
          rcases List.forall_mem_cons.mp ended with ⟨firstEnded, restEnded⟩
          show eventsOf index _ ++ eventsFrom (index + 1) (_ :: _) <+:
            eventsOf index _ ++ eventsFrom (index + 1) (_ :: _)
          rw [first.eventsOf_eq firstEnded]
          exact
            (List.prefix_append_right_inj _).mpr
              (induction restEnded (index + 1))

theorem Place.allButLastEnded
    {attempts : List Attempt} {state : State}
    (place : Place attempts state) (alive : state.phase ≠ .exited) :
    AllButLastEnded attempts := by
  have ofOpen : ∀ {earlier : List Attempt} {items : List Item},
      OpenAt attempts earlier items → AllButLastEnded attempts := by
    rintro earlier items ⟨rfl, ended, -⟩
    rw [AllButLastEnded, List.dropLast_concat]
    exact ended
  have ofEnded : AllEnded attempts → AllButLastEnded attempts := by
    intro ended attempt member
    exact ended attempt ((List.dropLast_sublist _).subset member)
  rcases state with ⟨count, phase⟩
  cases phase with
  | connecting => exact ofEnded place.1
  | announcing => exact ofOpen place.choose_spec
  | driving => exact ofOpen place.choose_spec.choose_spec
  | forwarding text => exact ofOpen place.choose_spec.choose_spec
  | lost => exact ofEnded place.1
  | backingOff wait => exact ofEnded place.1
  | exited => exact absurd rfl alive

/-! ## Markers stand between connections -/

/-- A later event belongs to the same attempt, or to a later one. -/
def Follows (earlier later : Nat × WsEvent) : Prop :=
  earlier.1 ≤ later.1 ∧ (later.2 = .reconnected → earlier.1 < later.1)

theorem index_of_mem_eventsOf
    {index : Nat} {attempt : Attempt} {event : Nat × WsEvent}
    (member : event ∈ eventsOf index attempt) :
    event.1 = index := by
  cases attempt with
  | refused => cases member
  | connected items =>
      rcases List.mem_append.mp member with marker | frame
      · split_ifs at marker
        · cases marker
        · rw [List.mem_singleton.mp marker]
      · rcases List.mem_map.mp frame with ⟨text, -, rfl⟩
        rfl

theorem eventsOf_pairwise (index : Nat) (attempt : Attempt) :
    (eventsOf index attempt).Pairwise Follows := by
  cases attempt with
  | refused => exact List.Pairwise.nil
  | connected items =>
      refine List.pairwise_append.mpr ⟨?_, ?_, ?_⟩
      · split_ifs
        · exact List.Pairwise.nil
        · exact List.pairwise_singleton _ _
      · apply List.pairwise_map.mpr
        exact List.pairwise_of_forall fun first second => ⟨le_rfl, nofun⟩
      · intro marker isMarker frame isFrame
        have marked : marker.1 = index := by
          split_ifs at isMarker
          · cases isMarker
          · rw [List.mem_singleton.mp isMarker]
        rcases List.mem_map.mp isFrame with ⟨text, -, rfl⟩
        exact ⟨marked.le, nofun⟩

theorem le_of_mem_eventsFrom
    {index : Nat} {script : List Attempt} {event : Nat × WsEvent}
    (member : event ∈ eventsFrom index script) :
    index ≤ event.1 := by
  induction script generalizing index with
  | nil => cases member
  | cons attempt rest induction =>
      rcases List.mem_append.mp member with first | later
      · exact (index_of_mem_eventsOf first).ge
      · exact (Nat.le_succ index).trans (induction later)

theorem eventsFrom_pairwise (index : Nat) (script : List Attempt) :
    (eventsFrom index script).Pairwise Follows := by
  induction script generalizing index with
  | nil => exact List.Pairwise.nil
  | cons attempt rest induction =>
      refine List.pairwise_append.mpr
        ⟨eventsOf_pairwise index attempt, induction (index + 1), ?_⟩
      intro first isFirst later isLater
      have less : first.1 < later.1 := by
        rw [index_of_mem_eventsOf isFirst]
        exact le_of_mem_eventsFrom isLater
      exact ⟨less.le, fun _ => less⟩

/-! ## Every script can be played -/

/-- The interactions in which the client reads one item. -/
def itemLabels (item : Item) : List Label :=
  match textOf item with
  | some _ => [.next item, .send true]
  | none => [.next item]

/-- The interactions in which the client reads a stream up to its end. -/
def streamLabels : List Item → List Label
  | [] => []
  | item :: rest =>
      itemLabels item ++ if Ends item then [] else streamLabels rest

/-- What playing an attempt from a state of the client achieves. -/
structure Played (before after : State) (earlier : List Attempt)
    (attempt : Attempt) (labels : List Label) : Prop where
  executes : client.exec before labels = some after
  delivered : .send false ∉ labels
  quiet : sending after = none
  ended : attempt.Ended → after.phase = .lost
  hears : ∃ read, labels.foldl hear earlier = earlier ++ [read] ∧
    Reads read attempt ∧
      ∀ index, eventsOf index read = eventsOf index attempt

theorem foldl_hear_itemLabels
    (item : Item) (attempts : List Attempt) :
    (itemLabels item).foldl hear attempts = receiveItem item attempts := by
  rw [itemLabels]
  split <;> rfl

theorem exec_itemLabels (count : Nat) (item : Item) :
    client.exec ⟨count, .driving⟩ (itemLabels item) =
      some ⟨count, if Ends item then .lost else .driving⟩ := by
  rcases item with _ | _ | _ | _ | _ | _ | _ <;> rfl

theorem itemLabels_delivered (item : Item) :
    .send false ∉ itemLabels item := by
  rw [itemLabels]
  split <;> simp

/-- The client reads a stream up to the item that ends it. -/
theorem play_stream
    (count : Nat) (earlier : List Attempt) (read items : List Item) :
    client.exec ⟨count, .driving⟩ (streamLabels items) =
        some ⟨count, if items.any Ends then .lost else .driving⟩ ∧
      .send false ∉ streamLabels items ∧
      ∃ taken, taken <+: items ∧
        framesBeforeEnd taken = framesBeforeEnd items ∧
        (streamLabels items).foldl hear (earlier ++ [.connected read]) =
          earlier ++ [.connected (read ++ taken)] := by
  induction items generalizing read with
  | nil =>
      refine ⟨rfl, by simp [streamLabels], [], List.prefix_rfl, rfl, ?_⟩
      rw [List.append_nil]
      rfl
  | cons item rest induction =>
      have heardItem := receiveItem_snoc item earlier read
      rw [streamLabels, GuardedMachine.exec_append, exec_itemLabels,
        List.foldl_append, foldl_hear_itemLabels, heardItem]
      cases ends : Ends item with
      | true =>
          refine ⟨by simp [ends], ?_, [item], ?_, ?_, rfl⟩
          · simpa using itemLabels_delivered item
          · exact (List.prefix_append_right_inj [item]).mpr List.nil_prefix
          · simp [framesBeforeEnd, ends]
      | false =>
          rcases induction (read ++ [item]) with
            ⟨executes, delivered, taken, isPrefix, frames, hears⟩
          refine ⟨?_, ?_, item :: taken, ?_, ?_, ?_⟩
          · rw [List.any_cons, ends]
            exact executes
          · rw [List.mem_append, not_or]
            exact ⟨itemLabels_delivered item, delivered⟩
          · exact (List.prefix_append_right_inj [item]).mpr isPrefix
          · rw [framesBeforeEnd, framesBeforeEnd, frames]
          · rw [List.append_assoc] at hears
            exact hears

/-- From the head of its loop the client plays any attempt. -/
theorem play_attempt
    (count : Nat) (earlier : List Attempt) (attempt : Attempt) :
    ∃ labels after,
      Played ⟨count, .connecting⟩ after earlier attempt labels := by
  cases attempt with
  | refused =>
      refine ⟨[.connect false], ⟨count, .lost⟩, rfl, by simp, rfl, ?_, ?_⟩
      · intro _
        rfl
      · exact ⟨.refused, rfl, .refused, fun _ => rfl⟩
  | connected items =>
      rcases play_stream 0 earlier [] items with
        ⟨executes, delivered, taken, isPrefix, frames, hears⟩
      have quiet :
          sending ⟨0, if items.any Ends then .lost else .driving⟩ = none := by
        split <;> rfl
      have ended : (Attempt.connected items).Ended →
          (if items.any Ends then Phase.lost else .driving) = .lost := by
        intro ended
        rw [if_pos (List.any_eq_true.mpr ended)]
      have reads : Reads (.connected taken) (.connected items) ∧
          ∀ index, eventsOf index (.connected taken) =
            eventsOf index (.connected items) := by
        refine ⟨.connected isPrefix, fun index => ?_⟩
        rw [eventsOf, eventsOf, frames]
      rcases Nat.eq_zero_or_pos count with first | again
      · subst first
        refine ⟨.connect true :: streamLabels items, _, ?_, ?_, quiet, ended,
          .connected taken, hears, reads⟩
        · exact executes
        · simpa using delivered
      · refine ⟨.connect true :: .send true :: streamLabels items, _, ?_, ?_,
          quiet, ended, .connected taken, hears, reads⟩
        · have connects :
              client.step ⟨count, .connecting⟩ (.connect true) =
                some ⟨0, .announcing⟩ :=
            (Transition.reconnect again).step
          rw [GuardedMachine.exec_cons, connects]
          exact executes
        · simpa using delivered

/-- A script of ended attempts brings the client back to its loop head. -/
theorem play_ended
    (script : List Attempt) (ended : AllEnded script) :
    ∃ labels count,
      client.exec client.init labels = some ⟨count, .connecting⟩ ∧
        .send false ∉ labels ∧
        List.Forall₂ Reads (heard labels) script := by
  induction script using List.reverseRecOn with
  | nil => exact ⟨[], 0, rfl, by simp, .nil⟩
  | append_singleton earlier attempt induction =>
      rcases List.forall_mem_append.mp ended with ⟨earlierEnded, lastEnded⟩
      rcases induction earlierEnded with ⟨labels, count, executes, delivered,
        reads⟩
      rcases play_attempt count (heard labels) attempt with
        ⟨more, ⟨finalCount, phase⟩, played⟩
      have lost : phase = .lost :=
        played.ended (lastEnded attempt List.mem_cons_self)
      subst lost
      rcases played.hears with ⟨read, hears, readsLast, -⟩
      refine ⟨labels ++ more ++ [.backOff 0, .wake],
        saturatingAdd 32 finalCount 1, ?_, ?_, ?_⟩
      · rw [GuardedMachine.exec_append, GuardedMachine.exec_append, executes,
          Option.bind_some, played.executes]
        rfl
      · simp [delivered, played.delivered]
      · rw [heard, List.foldl_append, List.foldl_append, ← heard, hears]
        exact List.rel_append reads (.cons readsLast .nil)

/-- The client stands between two connections. -/
def Between (state : State) : Prop :=
  match state.phase with
  | .connecting | .lost | .backingOff _ => True
  | .announcing | .driving | .forwarding _ | .exited => False

theorem Place.allEnded
    {attempts : List Attempt} {state : State}
    (place : Place attempts state) (between : Between state) :
    AllEnded attempts := by
  rcases state with ⟨count, phase⟩
  cases phase with
  | connecting => exact place.1
  | announcing => exact between.elim
  | driving => exact between.elim
  | forwarding text => exact between.elim
  | lost => exact place.1
  | backingOff wait => exact place.1
  | exited => exact between.elim

theorem alive_of_run
    {labels : List Label} {state : State}
    (run : client.Run labels state) (lives : .send false ∉ labels) :
    state.phase ≠ .exited := by
  cases run with
  | start => exact nofun
  | snoc run step =>
      rw [List.mem_append, not_or] at lives
      cases step_iff.mp step with
      | announceUndelivered => exact absurd (by simp) lives.2
      | forwardUndelivered => exact absurd (by simp) lives.2
      | _ => exact nofun

/--
Against any script and while the receiver lives, the client has at every
point sent exactly the events of the attempts made so far, a prefix of the
events of the script, and all of them once every attempt is over.  A marker
never stands between two events of one attempt.  Every script in which only
the last stream may stay open can be played, and yields all its events.
-/
theorem client_events (script : List Attempt) :
    (∀ labels state,
      client.Run labels state → .send false ∉ labels →
        Plays (heard labels) script →
          sentEvents labels ++ (sending state).toList =
              (expectedEvents (heard labels)).map Prod.snd ∧
            sentEvents labels ++ (sending state).toList <+:
              (expectedEvents script).map Prod.snd ∧
            ((heard labels).length = script.length → Between state →
              sentEvents labels =
                (expectedEvents script).map Prod.snd)) ∧
      (expectedEvents script).Pairwise Follows ∧
      (AllButLastEnded script →
        ∃ labels state,
          client.Run labels state ∧ .send false ∉ labels ∧
            Plays (heard labels) script ∧
            sentEvents labels = (expectedEvents script).map Prod.snd) := by
  refine ⟨?_, eventsFrom_pairwise 0 script, ?_⟩
  · rintro labels state run lives ⟨played, rest, rfl, reads⟩
    have sent := sent_of_run run lives
    have place := place_of_run run
    refine ⟨sent, ?_, ?_⟩
    · have extended : expectedEvents (heard labels) <+:
          expectedEvents (played ++ rest) := by
        rw [expectedEvents, expectedEvents, eventsFrom_append]
        exact
          ( eventsFrom_prefix reads
            (place.allButLastEnded (alive_of_run run lives)) 0).trans
            (List.prefix_append _ _)
      rw [sent]
      exact extended.map Prod.snd
    · intro complete between
      have nothing : rest = [] := by
        rw [List.length_append, ← reads.length_eq] at complete
        exact List.length_eq_zero_iff.mp (by omega)
      have silent : sending state = none := by
        rcases state with ⟨count, phase⟩
        cases phase <;> first | rfl | exact between.elim
      rw [silent, Option.toList_none, List.append_nil] at sent
      rw [sent, nothing, List.append_nil, expectedEvents, expectedEvents,
        eventsFrom_eq_of_ended reads (place.allEnded between)]
  · intro playable
    rcases List.eq_nil_or_concat script with rfl | ⟨earlier, last, rfl⟩
    · exact ⟨[], _, .start, by simp, ⟨[], [], rfl, .nil⟩, rfl⟩
    · rw [List.concat_eq_append] at playable ⊢
      rw [AllButLastEnded, List.dropLast_concat] at playable
      rcases play_ended earlier playable with
        ⟨labels, count, executes, delivered, reads⟩
      rcases play_attempt count (heard labels) last with ⟨more, after, played⟩
      rcases played.hears with ⟨read, hears, readsLast, sameEvents⟩
      have run : client.Run (labels ++ more) after :=
        (GuardedMachine.Run.of_exec executes).append played.executes
      have lives : .send false ∉ labels ++ more := by
        simp [delivered, played.delivered]
      have hearsAll : heard (labels ++ more) = heard labels ++ [read] := by
        rw [heard, List.foldl_append, ← heard, hears]
      have sent := sent_of_run run lives
      have ended : AllEnded (heard labels) :=
        (place_of_run (GuardedMachine.Run.of_exec executes)).1
      rw [played.quiet, Option.toList_none, List.append_nil, hearsAll,
        expectedEvents_snoc, sameEvents, expectedEvents,
        eventsFrom_eq_of_ended reads ended, reads.length_eq] at sent
      refine ⟨labels ++ more, after, run, lives, ?_, ?_⟩
      · refine ⟨earlier ++ [last], [], (List.append_nil _).symm, ?_⟩
        rw [hearsAll]
        exact List.rel_append reads (.cons readsLast .nil)
      · rw [sent, expectedEvents_snoc]
        rfl

/-- A refused attempt, a connection with one frame, and one that drops. -/
example :
    expectedEvents
        [.refused, .connected [some (.ok (.text "1")), none],
          .connected [some (.ok .ping), some (.ok .close)]] =
      [(1, .reconnected), (1, .message "1"), (2, .reconnected)] := by
  decide

end CryptoOrderbook.Client
