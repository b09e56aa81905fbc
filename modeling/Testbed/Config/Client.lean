import Testbed.Config.Fields

/-!
# Client options

How many requests a client may send: so many per second on average, and so many back to back.
-/

set_option autoImplicit false

namespace Testbed.Config

/-- Requests per second and requests in a row; zero per second lifts the limit. -/
structure ClientOptions (τ : Type) where
  qps : τ
  burst : Int

namespace ClientOptions

variable {τ : Type} [Seconds τ]

/-- Twenty requests per second and fifty in a row. -/
def standard : ClientOptions τ := ⟨20.0, 50⟩

/-- The fields of the options. -/
def fields : List String := ["client_qps", "client_burst"]

/-- Reads the options from their entries. -/
def ofEntries (entries : Entries) : Checked (ClientOptions τ) :=
  (Checked.ap
    (Checked.ap (.ok ClientOptions.mk)
      (.field entries "client_qps" standard.qps fun v => readNumber v >>= atLeast 0.0 "0"))
    (.field entries "client_burst" (standard (τ := τ)).burst fun v => do
      let n ← readInteger v
      if 1 ≤ n then .ok n else .error (.below "1"))).closed entries fields

end ClientOptions

end Testbed.Config
