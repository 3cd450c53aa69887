import Vvmux.Media.Notify

/-!
# Source credit and pending deliveries

A media record is paid for with its source's credit.  The credit goes back
when the delivery to the bridge is over, topped up to the source's window
while the source is projected.
-/

namespace Vvmux
namespace Media

open Library

structure Credits where
  bytes : Nat
  packets : Nat
deriving DecidableEq

namespace Source

/-- The source can pay for a record. -/
def affords (source : Source) (bytes : Nat) : Bool :=
  decide (0 < bytes) && decide (bytes ≤ source.outstandingByteCredit) &&
    decide (0 < source.outstandingPacketCredit)

/-- The credit of a record leaves what is outstanding. -/
def pay (source : Source) (bytes : Nat) : Source :=
  { source with
    outstandingByteCredit := source.outstandingByteCredit - bytes
    outstandingPacketCredit := source.outstandingPacketCredit - 1 }

/-- Credit that was charged is outstanding again. -/
def refund (source : Source) (bytes packets : Nat) : Source :=
  { source with
    chargedBytes := source.chargedBytes - bytes
    chargedPackets := source.chargedPackets - packets
    outstandingByteCredit :=
      saturatingAdd u64Max source.outstandingByteCredit bytes
    outstandingPacketCredit :=
      saturatingAdd u64Max source.outstandingPacketCredit packets }

/-- What the source's window has room for. -/
def topUp (source : Source) : Credits where
  bytes := source.creditWindowBytes -
    saturatingAdd u64Max source.outstandingByteCredit source.chargedBytes
  packets := source.creditWindowPackets -
    saturatingAdd u64Max source.outstandingPacketCredit source.chargedPackets

/-- Make more credit outstanding. -/
def grant (source : Source) (credits : Credits) : Source :=
  { source with
    outstandingByteCredit :=
      saturatingAdd u64Max source.outstandingByteCredit credits.bytes
    outstandingPacketCredit :=
      saturatingAdd u64Max source.outstandingPacketCredit credits.packets }

end Source

/-- `consume_source_credit` -/
def consumeSourceCredit
    (state : State)
    (key : SourceKey)
    (bytes : Nat) : State × Except String Unit :=
  match state.sources.find? key with
  | none => (state, .error "source no longer exists")
  | some source =>
      if !source.affords bytes then
        (state, .error "media record exceeds outstanding source credit")
      else
        match checkedAdd u64Max source.chargedBytes bytes with
        | none =>
            (state.updateSource key fun source => source.pay bytes,
              .error "charged byte credit overflow")
        | some chargedBytes =>
            match checkedAdd u64Max source.chargedPackets 1 with
            | none =>
                (state.updateSource key fun source =>
                    { source.pay bytes with chargedBytes := chargedBytes },
                  .error "charged packet credit overflow")
            | some chargedPackets =>
                (state.updateSource key fun source =>
                    { source.pay bytes with
                      chargedBytes := chargedBytes
                      chargedPackets := chargedPackets },
                  .ok ())

/-- `prepare_credit_return` -/
def prepareCreditReturn
    (state : State)
    (key : SourceKey)
    (bytes packets : Nat) : State × Credits :=
  match state.sources.find? key with
  | none => (state, ⟨bytes, packets⟩)
  | some source =>
      if source.chargedBytes < bytes ∨ source.chargedPackets < packets then
        (state, ⟨0, 0⟩)
      else
        let refunded := source.refund bytes packets
        if state.isProjected key then
          let topUp := refunded.topUp
          (state.updateSource key fun _ => refunded.grant topUp,
            ⟨saturatingAdd u64Max bytes topUp.bytes,
              saturatingAdd u64Max packets topUp.packets⟩)
        else (state.updateSource key fun _ => refunded, ⟨bytes, packets⟩)

/-- A credit record that is about to be written: `DeliveryCredit`. -/
structure DeliveryCredit where
  /-- Whether the producer's writer was still there. -/
  writer : Bool
  source : SourceKey
  credits : Credits

/-- `prepare_credit_write` -/
def prepareCreditWrite
    (state : State)
    (key : SourceKey)
    (bytes packets : Nat) : State × DeliveryCredit :=
  let result := prepareCreditReturn state key bytes packets
  (result.1, ⟨state.connected key.producer, key, result.2⟩)

/-- `write_delivery_credit`, with the record entered where it is prepared. -/
def writeDeliveryCredit (state : State) (credit : DeliveryCredit) : State :=
  if credit.writer && (credit.credits.bytes != 0 ||
      credit.credits.packets != 0) then
    state.write credit.source.producer
      (.credit credit.source.object credit.credits.bytes
        credit.credits.packets)
  else state

/-- Return the credit of a record and write it to the producer. -/
def returnCredit (state : State) (key : SourceKey) (bytes : Nat) : State :=
  let prepared := prepareCreditWrite state key bytes 1
  writeDeliveryCredit prepared.1 prepared.2

/-- Forget a pending delivery; what it held in the bridge's queue is free
again. -/
def State.dropDelivery
    (state : State)
    (delivery : Nat)
    (pending : PendingDelivery) : State :=
  { state.releaseQueued pending.queuedBytes with
    deliveries := state.deliveries.erase delivery
    returned := delivery :: state.returned }

/-- One round of `take_deliveries`. -/
def takeDelivery (state : State) (delivery : Nat) : State :=
  match state.deliveries.find? delivery with
  | none => state
  | some pending =>
      returnCredit (state.dropDelivery delivery pending) pending.source
        pending.creditBytes

/-- `take_deliveries`, followed by `return_delivery_credits`. -/
def takeDeliveries (state : State) (deliveries : List Nat) : State :=
  deliveries.foldl takeDelivery state

/-- `cancel_source_deliveries` -/
def cancelSourceDeliveries (state : State) (source : SourceKey) : State :=
  takeDeliveries state
    (state.deliveries.filter fun _ pending => pending.source == source).keys

end Media
end Vvmux
