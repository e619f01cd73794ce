import BrokerLoad.Proofs.Ledger.Service
import Mathlib.Algebra.GroupWithZero.Nat

/-!
# Gauges

A *gauge* is anything about the metrics that only ever grows: a counter, or the number of
samples of a channel.  Every emission moves a gauge on by so much (`Emission.gain`), and it
does not matter in which order emissions are made: what a gauge shows after many of them is
the sum of what each of them adds.  So the share that one of several engines has in a gauge
can be told from what that engine has emitted.

Gains are natural numbers, and the gauge is a word that shows them as far as it can.
-/

namespace BrokerLoad

/-- What can be read off the metrics. -/
inductive Gauge where
  | counter (counter : Counter)
  /-- The number of samples of a channel. -/
  | samples (channel : Channel)
  deriving DecidableEq

/-- What a gauge shows. -/
def Metrics.read (m : Metrics) : Gauge → UInt64
  | .counter counter => m.get counter
  | .samples channel => (m.latency channel).count

/-- How far an emission moves a gauge on. -/
def Emission.gain : Gauge → Emission → Nat
  | .counter counter, .bump other amount => if other = counter then amount.toNat else 0
  | .samples channel, .sample other => if other = channel then 1 else 0
  | _, _ => 0

/-- How far an exchange does. -/
def Exchange.gain (gauge : Gauge) (exchange : Exchange) : Nat :=
  match exchange.emission? with
  | some emission => emission.gain gauge
  | none => 0

theorem Metrics.read_absorb (m : Metrics) (emission : Emission) (gauge : Gauge) :
    (m.absorb emission).read gauge = m.read gauge + UInt64.ofNat (emission.gain gauge) := by
  cases emission with
  | say line => cases gauge <;> exact (UInt64.add_zero _).symm
  | bump other amount =>
    cases gauge with
    | counter counter =>
      show (m.add amount other).get counter = _
      rw [Metrics.get_add, Emission.gain]
      split
      · rw [UInt64.ofNat_toNat]
        rfl
      · exact (UInt64.add_zero _).symm
    | samples channel =>
      show ((m.add amount other).latency channel).count = _
      rw [Metrics.latency_add]
      exact (UInt64.add_zero _).symm
  | sample other =>
    cases gauge with
    | counter counter =>
      show (m.updateLatency _ other).get counter = _
      rw [Metrics.get_updateLatency]
      exact (UInt64.add_zero _).symm
    | samples channel =>
      show ((m.updateLatency _ other).latency channel).count = _
      rw [Metrics.latency_updateLatency, Emission.gain]
      split
      · rfl
      · exact (UInt64.add_zero _).symm

namespace Ledger

theorem read_after (ledger : Ledger) (exchange : Exchange) (gauge : Gauge) :
    (ledger.after exchange).metrics.read gauge =
      ledger.metrics.read gauge + UInt64.ofNat (exchange.gain gauge) := by
  obtain ⟨query, reply⟩ := exchange
  cases query with
  | emit emission => exact ledger.metrics.read_absorb emission gauge
  | _ => exact (UInt64.add_zero _).symm

/-- What a gauge shows after a number of exchanges. -/
theorem read_foldl_after (ledger : Ledger) (exchanges : List Exchange) (gauge : Gauge) :
    (exchanges.foldl after ledger).metrics.read gauge =
      ledger.metrics.read gauge + UInt64.ofNat (exchanges.map (Exchange.gain gauge)).sum := by
  induction exchanges generalizing ledger with
  | nil => exact (UInt64.add_zero _).symm
  | cons exchange rest ih =>
    rw [List.foldl_cons, ih, read_after, List.map_cons, List.sum_cons, UInt64.ofNat_add,
      UInt64.add_assoc]

/-- The latest id after a number of exchanges. -/
theorem latest_foldl_after (ledger : Ledger) (exchanges : List Exchange) :
    (exchanges.foldl after ledger).ids.latest =
      ledger.ids.latest + UInt64.ofNat (idsOf exchanges).length := by
  induction exchanges generalizing ledger with
  | nil => exact (UInt64.add_zero _).symm
  | cons exchange rest ih =>
    have hids : idsOf (exchange :: rest) = exchange.minted?.toList ++ idsOf rest := by
      rw [idsOf, List.filterMap_cons]
      cases exchange.minted? <;> rfl
    rw [List.foldl_cons, ih, latest_after, hids, List.length_append, UInt64.ofNat_add,
      UInt64.add_assoc]

end Ledger
end BrokerLoad
