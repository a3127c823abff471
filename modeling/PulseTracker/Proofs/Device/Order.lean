import Mathlib.Data.List.ReduceOption
import PulseTracker.Proofs.Device.Exchange

/-!
# What reaches the device

However the steps of the writer and of the device fall together, the device gets
the written samples in their order, each of them once.  The counter tells exactly
how many are announced and not yet copied, so a flush that returns has waited for
all of them.

What happened is kept by a watcher beside the exchange, who looks at it before
every action and changes nothing: what was written and announced, the buffers that
came back, and what the queue held whenever a callback turned to it.
-/

namespace PulseTracker

/-! ## What a queue holds -/

namespace Output

def waiting (output : Output) : List Int16 :=
  output.current.toList.drop output.position ++ output.queue.flatMap Array.toList

theorem waiting_of_sent {chunk : Array Int16} {output next : Output}
    (h : output.send chunk = .sent next) :
    next.waiting = output.waiting ++ chunk.toList ∧ next.pending = output.pending ∧
      next.attached = output.attached := by
  unfold send at h
  split at h
  · cases h
  · split at h
    · cases h
      simp [waiting]
    · cases h

theorem send_ne_refused {chunk : Array Int16} {output : Output} (h : output.attached = true) :
    output.send chunk ≠ .refused := by
  unfold send
  rw [h]
  simp only [Bool.not_true, Bool.false_eq_true, if_false]
  split <;> simp

theorem waiting_of_received {output next : Output} (hahead : output.ahead = 0)
    (h : output.receive? = some next) :
    next.waiting = output.waiting ∧ next.pending = output.pending ∧
      next.attached = output.attached := by
  have hdone : output.current.toList.drop output.position = [] := by
    rw [List.drop_eq_nil_iff, Array.length_toList]
    unfold ahead at hahead
    omega
  unfold receive? at h
  split at h
  · rename_i hqueue
    cases h
    simp [waiting, hdone, hqueue]
  · cases h

theorem receive?_eq_none_iff {output : Output} : output.receive? = none ↔ output.queue = [] := by
  unfold receive?
  split <;> simp [*]

theorem waiting_skip (count : Nat) (output : Output) :
    (output.upcoming count).toList ++ (output.skip count).waiting = output.waiting := by
  simp only [waiting, upcoming, skip, Array.toList_extract, List.extract_eq_take_drop,
    Nat.add_sub_cancel_left]
  rw [← List.append_assoc, ← List.drop_drop, List.take_append_drop]

end Output

/-! ## Watching -/

namespace Exchange

def announcing (x : Exchange) : Nat :=
  match x.writer with
  | .announce chunk => chunk.size
  | _ => 0

/-- What the queue holds, if the next step of the device turns to it for another chunk. -/
def asked (x : Exchange) : List (List (Array Int16)) :=
  match x.device with
  | .fill room got => if got.length < room ∧ x.output.ahead = 0 then [x.output.queue] else []
  | _ => []

def returned (x : Exchange) : List (List (Option Int16)) :=
  match x.device.atRest, x.deviceStep.device with
  | false, .idle buffer => [buffer]
  | _, _ => []

end Exchange

structure Callback where
  room : Nat
  cells : List (Option Int16)
  found : List (List (Array Int16))
  deriving DecidableEq

/-- `room` and `found` are about the callback under way, or else the last one. -/
structure WatchedExchange extends Exchange where
  written : List (Array Int16)
  announced : Nat
  room : Nat
  found : List (List (Array Int16))
  callbacks : List Callback

namespace WatchedExchange

def start : WatchedExchange :=
  { toExchange := .start, written := [], announced := 0, room := 0, found := [], callbacks := [] }

def act (x : WatchedExchange) (action : Exchange.Action) : WatchedExchange :=
  let next := { x with toExchange := x.toExchange.act action }
  match action with
  | .write chunk => if x.writer.atRest then { next with written := x.written ++ [chunk] } else next
  | .writer => { next with announced := x.announced + x.announcing }
  | .callback room => if x.device.atRest then { next with room, found := [] } else next
  | .device =>
      let found := x.found ++ x.asked
      { next with
        found
        callbacks := x.callbacks ++ x.returned.map fun cells => ⟨x.room, cells, found⟩ }
  | _ => next

def run (actions : List Exchange.Action) (x : WatchedExchange) : WatchedExchange :=
  actions.foldl act x

theorem act_toExchange (x : WatchedExchange) (action : Exchange.Action) :
    (x.act action).toExchange = x.toExchange.act action := by
  cases action with
  | write chunk | callback room =>
      simp only [act]
      split <;> rfl
  | flush | writer | giveUp | device => rfl

theorem run_toExchange (actions : List Exchange.Action) (x : WatchedExchange) :
    (x.run actions).toExchange = x.toExchange.run actions := by
  induction actions generalizing x with
  | nil => rfl
  | cons action actions ih =>
      have hrest := ih (x.act action)
      rwa [act_toExchange] at hrest

end WatchedExchange

/-! ## Where the samples are -/

/-- The rest of a buffer after its samples is silence, and there is some exactly when the callback
has found the queue empty. -/
def Callback.Proper (callback : Callback) : Prop :=
  ∃ samples silence,
    callback.cells = List.map some samples ++ List.replicate silence none ∧
      samples.length + silence = callback.room ∧ (0 < silence ↔ [] ∈ callback.found)

theorem reduceOption_cells (samples : List Int16) (silence : Nat) :
    (samples.map some ++ List.replicate silence none).reduceOption = samples := by
  rw [List.reduceOption_append, List.reduceOption_replicate_none, List.append_nil,
    List.reduceOption, List.filterMap_map]
  exact List.filterMap_some

def WriterStage.unsent : WriterStage → List Int16
  | .activate chunk => chunk.toList
  | .announce chunk => chunk.toList
  | .send chunk => chunk.toList
  | _ => []

def WriterStage.unannounced : WriterStage → Nat
  | .activate chunk => chunk.size
  | .announce chunk => chunk.size
  | _ => 0

theorem WriterStage.unannounced_le (stage : WriterStage) :
    stage.unannounced ≤ stage.unsent.length := by
  cases stage <;> simp [unannounced, unsent]

theorem WriterStage.atRest_unsent {stage : WriterStage} (h : stage.atRest) :
    stage.unsent = [] ∧ stage.unannounced = 0 := by
  cases stage with
  | ready => exact ⟨rfl, rfl⟩
  | flushed => exact ⟨rfl, rfl⟩
  | failed error => exact ⟨rfl, rfl⟩
  | _ => cases h

theorem WriterStage.ofChunk_unsent (chunk : Array Int16) :
    (ofChunk chunk).unsent = chunk.toList ∧ (ofChunk chunk).unannounced = chunk.size ∧
      ofChunk chunk ≠ .flushed := by
  by_cases hempty : chunk.isEmpty
  · have hchunk : chunk = #[] := Array.isEmpty_iff.mp hempty
    subst hchunk
    exact ⟨rfl, rfl, fun heq => by cases heq⟩
  · rw [ofChunk, if_neg hempty]
    exact ⟨rfl, rfl, fun heq => by cases heq⟩

def DeviceStage.got : DeviceStage → List Int16
  | .idle _ => []
  | .fill _ got => got
  | .count _ got _ => got
  | .quiet _ got => got

def DeviceStage.moving : DeviceStage → List Int16
  | .count _ _ batch => batch.toList
  | _ => []

theorem DeviceStage.atRest_got {stage : DeviceStage} (h : stage.atRest) :
    stage.got = [] ∧ stage.moving = [] := by
  cases stage with
  | idle buffer => exact ⟨rfl, rfl⟩
  | _ => cases h

/-- A callback for a buffer of that size keeps to it, and turns to silence as soon as it finds the
queue empty, and not before. -/
def DeviceStage.Fits (size : Nat) (found : List (List (Array Int16))) : DeviceStage → Prop
  | .idle _ => True
  | .fill room got => room = size ∧ got.length ≤ room ∧ [] ∉ found
  | .count room got batch => room = size ∧ got.length + batch.size ≤ room ∧ [] ∉ found
  | .quiet room got => room = size ∧ got.length < room ∧ [] ∈ found

namespace WatchedExchange

/-- The samples that the device has copied and counted, without the silence. -/
def copied (x : WatchedExchange) : List Int16 :=
  x.callbacks.flatMap (fun callback => callback.cells.reduceOption) ++ x.device.got

/-- The samples that the device is copying: they are in its buffer, or on the way to it, and the
counter has still to be lowered by them. -/
def moving (x : WatchedExchange) : List Int16 := x.device.moving

def waiting (x : WatchedExchange) : List Int16 := x.output.waiting ++ x.writer.unsent

def given (x : WatchedExchange) : List Int16 := x.written.flatMap Array.toList

structure InStep (x : WatchedExchange) : Prop where
  attached : x.output.attached = true
  order : x.given = x.copied ++ x.moving ++ x.waiting
  pending : x.output.pending + x.writer.unannounced = x.moving.length + x.waiting.length
  announced : x.announced + x.writer.unannounced = x.given.length
  callbacks : ∀ callback ∈ x.callbacks, callback.Proper
  fits : x.device.Fits x.room x.found
  flushed : x.writer = .flushed → x.output.pending = 0

theorem start_inStep : start.InStep where
  attached := rfl
  order := rfl
  pending := rfl
  announced := rfl
  callbacks := by simp [start]
  fits := trivial
  flushed _ := rfl

/-! ### Changes of one part -/

theorem InStep.withOutput {x : WatchedExchange} (h : x.InStep) {next : Output}
    (hwaiting : next.waiting = x.output.waiting) (hpending : next.pending = x.output.pending)
    (hattached : next.attached = x.output.attached) :
    InStep { x with output := next } where
  attached := hattached.trans h.attached
  order := by
    have horder := h.order
    rw [waiting, ← hwaiting] at horder
    exact horder
  pending := by
    have hcount := h.pending
    rw [waiting, ← hwaiting, ← hpending] at hcount
    exact hcount
  announced := h.announced
  callbacks := h.callbacks
  fits := h.fits
  flushed hflushed := hpending.trans (h.flushed hflushed)

theorem InStep.withWriter {x : WatchedExchange} (h : x.InStep) {stage : WriterStage}
    (hunsent : stage.unsent = x.writer.unsent)
    (hunannounced : stage.unannounced = x.writer.unannounced) (hflushed : stage ≠ .flushed) :
    InStep { x with writer := stage } where
  attached := h.attached
  order := by
    refine h.order.trans ?_
    simp only [waiting, hunsent]
    rfl
  pending := by
    have hpending := h.pending
    rw [waiting, ← hunsent, ← hunannounced] at hpending
    exact hpending
  announced := by
    have hannounced := h.announced
    rw [← hunannounced] at hannounced
    exact hannounced
  callbacks := h.callbacks
  fits := h.fits
  flushed heq := absurd heq hflushed

theorem InStep.withDevice {x : WatchedExchange} (h : x.InStep) {stage : DeviceStage}
    {room : Nat} {found : List (List (Array Int16))} (hgot : stage.got = x.device.got)
    (hmoving : stage.moving = x.device.moving) (hfits : stage.Fits room found) :
    InStep { x with device := stage, room, found } where
  attached := h.attached
  order := by
    have horder := h.order
    rw [copied, moving, ← hgot, ← hmoving] at horder
    exact horder
  pending := by
    have hpending := h.pending
    rw [moving, ← hmoving] at hpending
    exact hpending
  announced := h.announced
  callbacks := h.callbacks
  fits := hfits
  flushed := h.flushed

/-! ### Steps of the writer -/

theorem InStep.writerStep {x : WatchedExchange} (h : x.InStep) : (x.act .writer).InStep := by
  obtain ⟨⟨output, writer, device⟩, written, announced, room, found, callbacks⟩ := x
  simp only [act, Exchange.act, Exchange.announcing]
  cases writer with
  -- None of these moves a sample, and an announced chunk is in the counter.
  | activate chunk | announce chunk | report | deactivate | reportLast =>
      exact ⟨h.attached, h.order, h.pending, h.announced, h.callbacks, h.fits,
        fun heq => by cases heq⟩
  | send chunk =>
      simp only [Exchange.writerStep]
      cases hsend : output.send chunk with
      | sent next =>
          obtain ⟨hwaiting, hpending, hattached⟩ := Output.waiting_of_sent hsend
          have hsame : next.waiting ++ [] = output.waiting ++ chunk.toList := by
            rw [hwaiting, List.append_nil]
          refine ⟨hattached.trans h.attached, h.order.trans ?_, ?_, h.announced, h.callbacks,
            h.fits, fun heq => by cases heq⟩
          · exact congrArg _ hsame.symm
          · have hcount := h.pending
            simp only [waiting, WriterStage.unsent, WriterStage.unannounced, moving] at hcount ⊢
            rw [hpending, hsame]
            exact hcount
      | full => exact h
      | refused => exact absurd hsend (Output.send_ne_refused h.attached)
  | drain =>
      simp only [Exchange.writerStep]
      split
      · rename_i hdrained
        exact ⟨h.attached, h.order, h.pending, h.announced, h.callbacks, h.fits,
          fun _ => of_decide_eq_true hdrained⟩
      · exact h
  | ready | flushed | failed error => exact h

/-! ### Steps of the device -/

theorem InStep.moving_le_pending {x : WatchedExchange} (h : x.InStep) :
    x.moving.length ≤ x.output.pending := by
  have hcount := h.pending
  have hunannounced := x.writer.unannounced_le
  rw [waiting, List.length_append] at hcount
  omega

theorem InStep.callbackReturns {x : WatchedExchange} (h : x.InStep) (hmoving : x.moving = [])
    {buffer : List (Option Int16)} (hproper : Callback.Proper ⟨x.room, buffer, x.found⟩)
    (hbuffer : buffer.reduceOption = x.device.got) :
    InStep { x with
      device := .idle buffer
      callbacks := x.callbacks ++ [⟨x.room, buffer, x.found⟩] } where
  attached := h.attached
  order := by
    have horder := h.order
    rw [hmoving, copied, ← hbuffer] at horder
    refine horder.trans ?_
    simp [copied, moving, waiting, DeviceStage.got, DeviceStage.moving]
  pending := by
    have hcount := h.pending
    rw [hmoving] at hcount
    exact hcount
  announced := h.announced
  callbacks := by
    simp only [List.mem_append, List.mem_singleton]
    rintro other (hother | rfl)
    · exact h.callbacks other hother
    · exact hproper
  fits := trivial
  flushed := h.flushed

theorem InStep.copies {x : WatchedExchange} (h : x.InStep) {room count : Nat} {got : List Int16}
    (hdevice : x.device = .fill room got) (hcount : count ≤ x.output.ahead)
    (hroom : got.length + count ≤ room) :
    InStep { x with
      output := x.output.skip count
      device := .count room got (x.output.upcoming count) } where
  attached := h.attached
  order := by
    refine h.order.trans ?_
    simp only [copied, moving, waiting, hdevice, DeviceStage.got, DeviceStage.moving,
      ← Output.waiting_skip count x.output, List.append_nil, List.append_assoc]
  pending := by
    have hpending := h.pending
    simp only [moving, waiting, hdevice, DeviceStage.moving, ← Output.waiting_skip count x.output,
      List.length_append, List.length_nil, Nat.zero_add] at hpending ⊢
    rw [Nat.add_assoc] at hpending
    exact hpending
  announced := h.announced
  callbacks := h.callbacks
  fits := by
    have hfits := h.fits
    rw [hdevice] at hfits
    obtain ⟨hsize, -, hfound⟩ := hfits
    refine ⟨hsize, ?_, hfound⟩
    rw [Output.size_upcoming hcount]
    exact hroom
  flushed := h.flushed

theorem InStep.counts {x : WatchedExchange} (h : x.InStep) {room : Nat} {got : List Int16}
    {batch : Array Int16} (hdevice : x.device = .count room got batch) :
    InStep { x with
      output := x.output.settle batch.size
      device := .fill room (got ++ batch.toList) } where
  attached := h.attached
  order := by
    refine h.order.trans ?_
    simp only [copied, moving, waiting, hdevice, DeviceStage.got, DeviceStage.moving,
      List.append_nil, List.append_assoc]
    rfl
  pending := by
    have hpending := h.pending
    have hle := h.moving_le_pending
    simp only [moving, hdevice, DeviceStage.moving, Array.length_toList] at hpending hle
    simp only [moving, DeviceStage.moving, Output.settle, List.length_nil]
    show _ = 0 + x.waiting.length
    omega
  announced := h.announced
  callbacks := h.callbacks
  fits := by
    have hfits := h.fits
    rw [hdevice] at hfits
    simp only [DeviceStage.Fits, List.length_append, Array.length_toList]
    exact hfits
  flushed hflushed := by
    simp only [Output.settle, h.flushed hflushed, Nat.zero_sub]

theorem InStep.runsDry {x : WatchedExchange} (h : x.InStep) :
    InStep { x with output := x.output.runDry } := by
  unfold Output.runDry
  split
  · exact h.withOutput rfl rfl rfl
  · exact h

section

variable {x : WatchedExchange} {room : Nat} {got : List Int16}

theorem act_device_atRest (hrest : x.device.atRest) : x.act .device = x := by
  cases hdevice : x.device with
  | idle buffer =>
      simp [WatchedExchange.act, Exchange.act, Exchange.deviceStep, Exchange.asked,
        Exchange.returned, hdevice, DeviceStage.atRest]
  | _ =>
      rw [hdevice] at hrest
      cases hrest

theorem act_device_goesOn (hbusy : x.deviceStep.device.atRest = false) :
    x.act .device = { x with
      toExchange := x.deviceStep
      found := x.found ++ x.asked } := by
  have hreturned : x.returned = [] := by
    unfold Exchange.returned
    split
    · rename_i hidle
      rw [hidle] at hbusy
      cases hbusy
    · rfl
  simp [WatchedExchange.act, Exchange.act, hreturned]

theorem act_device_returns {buffer : List (Option Int16)} (hbusy : x.device.atRest = false)
    (hidle : x.deviceStep.device = .idle buffer) :
    x.act .device = { x with
      toExchange := x.deviceStep
      found := x.found ++ x.asked
      callbacks := x.callbacks ++ [⟨x.room, buffer, x.found ++ x.asked⟩] } := by
  simp [WatchedExchange.act, Exchange.act, Exchange.returned, hbusy, hidle]

theorem act_device_full (hdevice : x.device = .fill room got) (hfull : room ≤ got.length) :
    x.act .device = { x with
      device := .idle (got.map some)
      callbacks := x.callbacks ++ [⟨x.room, got.map some, x.found⟩] } := by
  have hstep : x.toExchange.deviceStep =
      { x.toExchange with device := .idle (got.map some) } := by
    simp only [Exchange.deviceStep, hdevice, if_pos hfull]
  have hasked : x.asked = [] := by
    simp [Exchange.asked, hdevice, Nat.not_lt.mpr hfull]
  rw [act_device_returns (by rw [hdevice]; rfl) (by rw [hstep]), hstep, hasked, List.append_nil]

theorem act_device_received {next : Output} (hdevice : x.device = .fill room got)
    (hroom : got.length < room) (hahead : x.output.ahead = 0)
    (hreceive : x.output.receive? = some next) :
    x.act .device = { x with output := next, found := x.found ++ [x.output.queue] } := by
  have hstep : x.toExchange.deviceStep = { x.toExchange with output := next } := by
    simp only [Exchange.deviceStep, hdevice, if_neg (Nat.not_le.mpr hroom), hahead, hreceive,
      if_true]
  have hasked : x.asked = [x.output.queue] := by
    simp [Exchange.asked, hdevice, hroom, hahead]
  rw [act_device_goesOn (by rw [hstep, hdevice]; rfl), hstep, hasked]

theorem act_device_empty (hdevice : x.device = .fill room got) (hroom : got.length < room)
    (hahead : x.output.ahead = 0) (hreceive : x.output.receive? = none) :
    x.act .device = { x with
      device := .quiet room got
      found := x.found ++ [[]] } := by
  have hstep : x.toExchange.deviceStep = { x.toExchange with device := .quiet room got } := by
    simp only [Exchange.deviceStep, hdevice, if_neg (Nat.not_le.mpr hroom), hahead, hreceive,
      if_true]
  have hasked : x.asked = [[]] := by
    simp [Exchange.asked, hdevice, hroom, hahead, Output.receive?_eq_none_iff.mp hreceive]
  rw [act_device_goesOn (by rw [hstep]; rfl), hstep, hasked]

theorem act_device_copies (hdevice : x.device = .fill room got) (hroom : got.length < room)
    (hahead : x.output.ahead ≠ 0) :
    x.act .device = { x with
      output := x.output.skip (min x.output.ahead (room - got.length))
      device := .count room got
        (x.output.upcoming (min x.output.ahead (room - got.length))) } := by
  have hstep : x.toExchange.deviceStep = { x.toExchange with
      output := x.output.skip (min x.output.ahead (room - got.length))
      device := .count room got
        (x.output.upcoming (min x.output.ahead (room - got.length))) } := by
    simp only [Exchange.deviceStep, hdevice, if_neg (Nat.not_le.mpr hroom), if_neg hahead]
  have hasked : x.asked = [] := by
    simp [Exchange.asked, hdevice, hahead]
  rw [act_device_goesOn (by rw [hstep]; rfl), hstep, hasked, List.append_nil]

theorem act_device_counts {batch : Array Int16} (hdevice : x.device = .count room got batch) :
    x.act .device = { x with
      output := x.output.settle batch.size
      device := .fill room (got ++ batch.toList) } := by
  have hstep : x.toExchange.deviceStep = { x.toExchange with
      output := x.output.settle batch.size
      device := .fill room (got ++ batch.toList) } := by
    simp only [Exchange.deviceStep, hdevice]
  have hasked : x.asked = [] := by
    simp only [Exchange.asked, hdevice]
  rw [act_device_goesOn (by rw [hstep]; rfl), hstep, hasked, List.append_nil]

theorem act_device_quiet (hdevice : x.device = .quiet room got) :
    x.act .device = { x with
      output := x.output.runDry
      device := .idle (got.map some ++ List.replicate (room - got.length) none)
      callbacks := x.callbacks ++
        [⟨x.room, got.map some ++ List.replicate (room - got.length) none, x.found⟩] } := by
  have hstep : x.toExchange.deviceStep = { x.toExchange with
      output := x.output.runDry
      device := .idle (got.map some ++ List.replicate (room - got.length) none) } := by
    simp only [Exchange.deviceStep, hdevice]
  have hasked : x.asked = [] := by
    simp only [Exchange.asked, hdevice]
  rw [act_device_returns (by rw [hdevice]; rfl) (by rw [hstep]), hstep, hasked, List.append_nil]

end

theorem InStep.deviceStep {x : WatchedExchange} (h : x.InStep) : (x.act .device).InStep := by
  have hfits := h.fits
  cases hdevice : x.device with
  | idle buffer =>
      rw [act_device_atRest (by rw [hdevice]; rfl)]
      exact h
  | fill room got =>
      rw [hdevice] at hfits
      obtain ⟨hsize, hle, hfound⟩ := hfits
      have hmoving : x.moving = [] := by rw [moving, hdevice]; rfl
      by_cases hfull : room ≤ got.length
      · rw [act_device_full hdevice hfull]
        have hcells := reduceOption_cells got 0
        rw [List.replicate_zero, List.append_nil] at hcells
        refine h.callbackReturns hmoving ⟨got, 0, by simp, ?_, ?_⟩ (by rw [hdevice]; exact hcells)
        · simp only
          omega
        · exact iff_of_false (Nat.lt_irrefl 0) hfound
      have hroom : got.length < room := Nat.not_le.mp hfull
      by_cases hahead : x.output.ahead = 0
      -- The chunk is used up, and the next one comes from the queue if there is one.
      · cases hreceive : x.output.receive? with
        | some next =>
            have hsome : [] ≠ x.output.queue := fun hnone => by
              rw [Output.receive?_eq_none_iff.mpr hnone.symm] at hreceive
              cases hreceive
            obtain ⟨hwaiting, hpending, hattached⟩ := Output.waiting_of_received hahead hreceive
            rw [act_device_received hdevice hroom hahead hreceive]
            refine (h.withOutput hwaiting hpending hattached).withDevice rfl rfl ?_
            rw [hdevice]
            refine ⟨hsize, hle, ?_⟩
            rw [List.mem_append, List.mem_singleton]
            exact not_or.mpr ⟨hfound, hsome⟩
        | none =>
            rw [act_device_empty hdevice hroom hahead hreceive]
            exact h.withDevice (by rw [hdevice]; rfl) (by rw [hdevice]; rfl)
              ⟨hsize, hroom, by simp⟩
      · rw [act_device_copies hdevice hroom hahead]
        exact h.copies hdevice (Nat.min_le_left _ _) (by omega)
  | count room got batch =>
      rw [act_device_counts hdevice]
      exact h.counts hdevice
  | quiet room got =>
      rw [hdevice] at hfits
      obtain ⟨hsize, hlt, hfound⟩ := hfits
      have hmoving : x.moving = [] := by rw [moving, hdevice]; rfl
      rw [act_device_quiet hdevice]
      refine h.runsDry.callbackReturns hmoving ⟨got, room - got.length, rfl, ?_, ?_⟩
        (by rw [hdevice]; exact reduceOption_cells got _)
      · simp only
        omega
      · exact iff_of_true (by omega) hfound

/-! ### Runs -/

theorem InStep.writes {x : WatchedExchange} (h : x.InStep) (hrest : x.writer.atRest)
    (chunk : Array Int16) :
    InStep { x with writer := .ofChunk chunk, written := x.written ++ [chunk] } := by
  obtain ⟨hunsent, hunannounced⟩ := WriterStage.atRest_unsent hrest
  obtain ⟨hchunk, hsize, hflushed⟩ := WriterStage.ofChunk_unsent chunk
  have horder := h.order
  have hpending := h.pending
  have hannounced := h.announced
  simp only [waiting, hunsent, hunannounced, List.append_nil] at horder hpending hannounced
  have hgiven : given { x with writer := .ofChunk chunk, written := x.written ++ [chunk] } =
      x.given ++ chunk.toList := by
    simp [given]
  refine ⟨h.attached, ?_, ?_, ?_, h.callbacks, h.fits, fun heq => absurd heq hflushed⟩
  · rw [hgiven, horder, waiting, hchunk, List.append_assoc]
    rfl
  · simp only [waiting, hchunk, hsize, List.length_append, Array.length_toList]
    show _ = x.moving.length + _
    omega
  · show x.announced + (WriterStage.ofChunk chunk).unannounced = _
    rw [hsize, hgiven, List.length_append, ← hannounced]
    rfl

theorem InStep.act {x : WatchedExchange} (h : x.InStep) (action : Exchange.Action) :
    (x.act action).InStep := by
  cases action with
  | write chunk =>
      simp only [WatchedExchange.act, Exchange.act]
      split
      · rename_i hrest
        exact h.writes hrest chunk
      · exact h
  | flush =>
      simp only [WatchedExchange.act, Exchange.act]
      split
      · rename_i hrest
        obtain ⟨hunsent, hunannounced⟩ := WriterStage.atRest_unsent hrest
        exact h.withWriter hunsent.symm hunannounced.symm fun heq => by cases heq
      · exact h
  | writer => exact h.writerStep
  | giveUp =>
      simp only [WatchedExchange.act, Exchange.act]
      split
      · rename_i hdrain
        exact h.withWriter (by rw [hdrain]; rfl) (by rw [hdrain]; rfl) fun heq => by cases heq
      · exact h
  | callback room =>
      simp only [WatchedExchange.act, Exchange.act]
      split
      · rename_i hrest
        have hgot : x.device.got = [] ∧ x.device.moving = [] := DeviceStage.atRest_got hrest
        exact h.withDevice hgot.1.symm hgot.2.symm ⟨rfl, Nat.zero_le room, List.not_mem_nil⟩
      · exact h
  | device => exact h.deviceStep

theorem InStep.run {x : WatchedExchange} (h : x.InStep) (actions : List Exchange.Action) :
    (x.run actions).InStep := by
  induction actions generalizing x with
  | nil => exact h
  | cons action actions ih => exact ih (h.act action)

/--
After any interleaving of the steps of both sides the device has copied a beginning of what was
written, and what it is copying comes next.  The counter is what was announced and not copied, and
it covers what is being copied, so it never falls below zero.  A buffer has silence at its end
only, and only when the queue was found empty.  When a flush has returned without an error, all
that was written is copied.
-/
theorem run_copies_in_order (actions : List Exchange.Action) :
    let x := run actions start
    x.toExchange = Exchange.run actions .start ∧
      x.copied ++ x.moving <+: x.given ∧
      x.output.pending = x.announced - x.copied.length ∧
      x.copied.length ≤ x.announced ∧
      x.moving.length ≤ x.output.pending ∧
      (∀ callback ∈ x.callbacks, callback.Proper) ∧
      (x.writer = .flushed → x.copied = x.given) := by
  intro x
  have h : x.InStep := start_inStep.run actions
  have horder := h.order
  have hpending := h.pending
  have hannounced := h.announced
  have hlength := congrArg List.length horder
  simp only [List.length_append] at hlength
  refine ⟨run_toExchange actions start, ⟨x.waiting, horder.symm⟩, by omega, by omega,
    h.moving_le_pending, h.callbacks, ?_⟩
  -- The counter covers all that is not copied, so nothing is left once it is zero.
  intro hflushed
  have hnone := h.flushed hflushed
  have hunannounced : x.writer.unannounced = 0 := by rw [hflushed]; rfl
  have hmoving : x.moving = [] := List.length_eq_zero_iff.mp (by omega)
  have hwaiting : x.waiting = [] := List.length_eq_zero_iff.mp (by omega)
  rw [horder, hmoving, hwaiting, List.append_nil, List.append_nil]

-- The chunk comes into the queue after the first callback has found it empty, is cut by the second
-- one, and its end is waited for by the flush.
example :
    let x := run [.write #[1, 2, 3], .writer, .writer, .callback 2, .device, .writer, .device,
      .callback 2, .device, .device, .device, .device, .writer, .flush, .writer, .writer,
      .callback 4, .device, .writer, .device, .device, .device, .writer] start
    x.writer = .flushed ∧ x.copied = x.given ∧
      x.callbacks = [⟨2, [none, none], [[]]⟩, ⟨2, [some 1, some 2], [[#[1, 2, 3]]]⟩,
        ⟨4, [some 3, none, none, none], [[]]⟩] := by
  decide

end WatchedExchange

end PulseTracker
