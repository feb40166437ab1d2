import Mathlib.Logic.Function.Basic

/-!
# Presenting a picture

`hud_gl_present` and `hud_gl_blank` of `ginkgo-status-gpu.c` with `fb_from_bo` and
`wait_flip`, and the part of the kernel that they talk to. A buffer is a number and its
framebuffer is named by it.

The kernel scans out what the last successful `drmModeSetCrtc` or the last completed flip
has set, and refuses a flip while one is pending. The surface hands out no buffer that is
locked. Rendering, the EGL context and the `panel_sleep` write are left out.

While `wait_flip` waits it calls `gl_idle`, which is `drain_inputs`: the power key switches the
screen off or on there, so `hud_gl_blank` runs inside `hud_gl_present`.

`Gpu.locks` and `Gpu.releases` are history, and so is `Gpu.torn`: a buffer has been released
while it was scanned out or waited for its flip.
-/

namespace Ginkgo

/-- The globals of the file, and what the kernel and the surface keep. -/
structure Gpu where
  eglDpy : Bool := true
  kmsCrtc : Bool := true
  boPrev : Option Nat := none
  boCur : Option Nat := none
  crtcSet : Bool := false
  flipDone : Bool := false
  fbs : Nat → Bool := fun _ => false
  scanout : Option Nat := none
  pending : Option Nat := none
  flipEvents : Nat := 0
  locks : Nat → Nat := fun _ => 0
  releases : Nat → Nat := fun _ => 0
  torn : Bool := false

/-- The answers of `drmModeAddFB2WithModifiers` and `drmModeAddFB2`. -/
structure AddFb where
  withModifiers : Bool := true
  plain : Bool := true
  deriving DecidableEq

/-- What can happen to the display apart from `hud_gl_present`: `hud_gl_blank(1)` and
`hud_gl_blank(0)` with the answers of the kernel, and the completion of the pending flip. -/
inductive DisplayCall where
  | blank (setCrtc : Bool)
  | unblank (addFb : AddFb) (setCrtc : Bool)
  | vblank
  deriving DecidableEq

/-- What happens in one round of `wait_flip`: whether the pending flip completes before
`poll` returns, whether `poll` fails, whether another descriptor is ready, and what the idle
callback then does to the display; and where no other is ready, whether the flip completes after
`poll` has returned. -/
structure FlipPoll where
  completes : Bool := false
  fails : Bool := false
  extra : Bool := false
  idle : List DisplayCall := []
  late : Bool := false
  deriving DecidableEq

/-- What a call of `hud_gl_present` gets: the front buffer of the surface, the answers of the
kernel and the rounds of the wait. -/
structure Present where
  front : Option Nat
  addFb : AddFb := {}
  setCrtc : Bool := true
  pageFlip : Bool := true
  polls : List FlipPoll := []

/-- A call of `hud_gl_present`, or what happens between two of them. -/
inductive GpuCall where
  | present (answers : Present)
  | display (call : DisplayCall)

namespace Gpu

/-! ## The kernel and the surface -/

/-- The pending flip takes effect and an event says so. -/
def complete (g : Gpu) : Gpu :=
  match g.pending with
  | none => g
  | some bo => { g with scanout := some bo, pending := none, flipEvents := g.flipEvents + 1 }

/-- `drmModeSetCrtc`: a buffer to scan out, or none. -/
def drmModeSetCrtc (bo : Option Nat) (ok : Bool) (g : Gpu) : Gpu :=
  if ok then { g with scanout := bo } else g

/-- Whether the flip is accepted. -/
def drmModePageFlip (bo : Nat) (ok : Bool) (g : Gpu) : Gpu × Bool :=
  if ok ∧ g.pending = none then ({ g with pending := some bo }, true) else (g, false)

/-- `drmHandleEvent`: every event that has arrived sets the flag it was given. -/
def drmHandleEvent (g : Gpu) : Gpu :=
  { g with flipEvents := 0, flipDone := g.flipDone || 0 < g.flipEvents }

/-- The surface locks its front buffer, unless that is locked already. -/
def lockFrontBuffer (front : Option Nat) (g : Gpu) : Gpu × Option Nat :=
  match front with
  | none => (g, none)
  | some bo =>
      if g.locks bo = g.releases bo then
        ({ g with locks := Function.update g.locks bo (g.locks bo + 1) }, some bo)
      else (g, none)

/-- `gbm_surface_release_buffer`. -/
def releaseBuffer (bo : Nat) (g : Gpu) : Gpu :=
  { g with
    releases := Function.update g.releases bo (g.releases bo + 1)
    torn := g.torn || g.scanout = some bo || g.pending = some bo }

/-! ## The program -/

/-- The framebuffer of a buffer; whether there is one. -/
def fbFromBo (bo : Nat) (addFb : AddFb) (g : Gpu) : Gpu × Bool :=
  if g.fbs bo then (g, true)
  else if addFb.withModifiers || addFb.plain then
    ({ g with fbs := Function.update g.fbs bo true }, true)
  else (g, false)

/-- `hud_gl_blank(1)`. -/
def blank (setCrtc : Bool) (g : Gpu) : Gpu :=
  let g := if g.kmsCrtc then g.drmModeSetCrtc none setCrtc else g
  { g with crtcSet := false }

/-- `hud_gl_blank(0)`. -/
def unblank (addFb : AddFb) (setCrtc : Bool) (g : Gpu) : Gpu :=
  match g.boPrev with
  | none => { g with crtcSet := false }
  | some bo =>
      if g.kmsCrtc then
        match g.fbFromBo bo addFb with
        | (g, false) => { g with crtcSet := false }
        | (g, true) => { g.drmModeSetCrtc (some bo) setCrtc with crtcSet := setCrtc }
      else { g with crtcSet := false }

/-- One of the things that happen to the display. -/
def display (g : Gpu) : DisplayCall → Gpu
  | .blank setCrtc => g.blank setCrtc
  | .unblank addFb setCrtc => g.unblank addFb setCrtc
  | .vblank => g.complete

/-- The rounds of `wait_flip`; `spins` counts those that time out. When no round is left,
nothing happens any more: what has arrived is read, and otherwise the wait times out. -/
def waitFlip (spins : Nat) : List FlipPoll → Gpu → Gpu
  | [], g => g.drmHandleEvent
  | poll :: polls, g =>
      let g := if poll.completes then g.complete else g
      if poll.fails then g
      else
        let timedOut : Bool := g.flipEvents = 0 ∧ poll.extra = false
        let g := g.drmHandleEvent
        let g := if poll.extra then poll.idle.foldl display g
          else if poll.late then g.complete else g
        if g.flipDone then g
        else if timedOut then if 3 < spins + 1 then g else waitFlip (spins + 1) polls g
        else waitFlip spins polls g

/-- Show a buffer: set the mode if that has not been done, and flip to it otherwise. -/
def showBuffer (bo : Nat) (answers : Present) (g : Gpu) : Gpu :=
  if g.crtcSet = false then
    { g.drmModeSetCrtc (some bo) answers.setCrtc with crtcSet := answers.setCrtc }
  else
    match { g with flipDone := false }.drmModePageFlip bo answers.pageFlip with
    | (g, accepted) => if accepted then g.waitFlip 0 answers.polls else g

/-- The buffer in `bo_prev` is released, if there is one. -/
def releasePrev (g : Gpu) : Gpu :=
  match g.boPrev with
  | none => g
  | some bo => g.releaseBuffer bo

/-- `hud_gl_present`. -/
def present (answers : Present) (g : Gpu) : Gpu :=
  if g.eglDpy = false then g
  else
    match g.lockFrontBuffer answers.front with
    | (g, none) => { g with boCur := none }
    | (g, some bo) =>
        match { g with boCur := some bo }.fbFromBo bo answers.addFb with
        | (g, false) => g
        | (g, true) =>
            let g := (g.showBuffer bo answers).releasePrev
            { g with boPrev := g.boCur, boCur := none }

/-- One step. -/
def step (g : Gpu) : GpuCall → Gpu
  | .present answers => g.present answers
  | .display call => g.display call

end Gpu

end Ginkgo
