import Ginkgo.Hud.Connect

/-!
# The arguments of the connect script

The script is told to join or to forget by its first argument, which is the word
`forget` or the name of the network to join. Every request is read back as it was sent
exactly when the network is not called `forget` (`Ginkgo.Script.requests_decode_iff`).
-/

namespace Ginkgo

open CText

namespace Script

/-- What the script is asked to do. -/
inductive Request where
  | join (ssid pass iface sec : Text)
  | forget (ssid iface : Text)
  deriving DecidableEq

/-- `${n:-}` for `n` from 1; the words before the first parameter are the shell and the
script. -/
def param (argv : List Text) (n : Nat) : Text := argv.getD (n + 1) []

/-- The assignments at the start of the script. -/
def decode (argv : List Text) : Request :=
  if param argv 1 = txt "forget" then .forget (param argv 2) (param argv 3)
  else .join (param argv 1) (param argv 2) (param argv 3) (param argv 4)

/-- A request to forget is read back, whatever the network is called. -/
theorem decode_forgetArgv (ssid : Buf 96) (iface : Buf 32) :
    decode (forgetArgv ssid iface) = .forget ssid.text iface.text := by
  have action : param (forgetArgv ssid iface) 1 = txt "forget" := rfl
  rw [decode, if_pos action]
  rfl

section Join

variable {ssid : Buf 96} {pass : Buf 64} {iface : Buf 32} {sec : Buf 40}

/-- The arguments of a join decode as they were meant, but for the name `forget`. -/
theorem decode_connectArgv (other : ssid.text ≠ txt "forget") :
    decode (connectArgv ssid pass iface sec) =
      .join ssid.text pass.text iface.text sec.text := by
  have action : param (connectArgv ssid pass iface sec) 1 = ssid.text := rfl
  rw [decode, action, if_neg other]
  rfl

/-- A request to join the network `forget` is one to forget the network that the password
names. -/
theorem decode_connectArgv_forget (same : ssid.text = txt "forget") :
    decode (connectArgv ssid pass iface sec) = .forget pass.text iface.text := by
  have action : param (connectArgv ssid pass iface sec) 1 = ssid.text := rfl
  rw [decode, action, if_pos same]
  rfl

end Join

/-- **Requests are read back as they were sent exactly when the network is not called
`forget`.** -/
theorem requests_decode_iff (ssid : Buf 96) (pass : Buf 64) (iface : Buf 32) (sec : Buf 40) :
    decode (connectArgv ssid pass iface sec) = .join ssid.text pass.text iface.text sec.text ∧
        decode (forgetArgv ssid iface) = .forget ssid.text iface.text ↔
      ssid.text ≠ txt "forget" := by
  constructor
  · rintro ⟨joins, -⟩ same
    rw [decode_connectArgv_forget same] at joins
    cases joins
  · intro other
    exact ⟨decode_connectArgv other, decode_forgetArgv ssid iface⟩

/-- Joining a network called `forget` forgets another one. -/
theorem join_decodes_as_forget :
    ¬∀ (ssid : Buf 96) (pass : Buf 64) (iface : Buf 32) (sec : Buf 40),
      decode (connectArgv ssid pass iface sec) = .join ssid.text pass.text iface.text sec.text ∧
        decode (forgetArgv ssid iface) = .forget ssid.text iface.text := by
  intro always
  have joins := (always (.print 96 (txt "forget")) (.print 64 (txt "secret99"))
    (.print 32 (txt "wlan0")) (.print 40 (txt "WPA2"))).1
  have forgets : ¬decode (connectArgv (.print 96 (txt "forget")) (.print 64 (txt "secret99"))
      (.print 32 (txt "wlan0")) (.print 40 (txt "WPA2"))) =
        .join (Buf.print 96 (txt "forget")).text (Buf.print 64 (txt "secret99")).text
          (Buf.print 32 (txt "wlan0")).text (Buf.print 40 (txt "WPA2")).text := by
    decide +kernel
  exact forgets joins

end Script

end Ginkgo
