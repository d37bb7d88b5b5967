import ReliableDatagram.WireUnit.Encoding

/-!
# Links

A link takes datagrams on their way to the other side.  It may refuse one, for a
cause of its own; which of the coming datagrams it will refuse is part of its
state, so that what happens next is a function of what is known.
-/

namespace ReliableDatagram

/-- A way for datagrams to leave. -/
structure Link where
  /-- The datagrams taken so far, in order. -/
  accepted : List Datagram := []
  /-- For each of the coming datagrams the cause for which it will be refused, if
  it will.  Those after the end of the list will be taken. -/
  refusals : List (Option String) := []
  deriving DecidableEq, Repr, Inhabited

namespace Link

/-- Hand over a datagram.  The answer is the cause of a refusal, if any. -/
def offer (link : Link) (datagram : Datagram) : Option String × Link :=
  match link.refusals with
  | some cause :: rest => (some cause, { link with refusals := rest })
  | none :: rest => (none, ⟨link.accepted ++ [datagram], rest⟩)
  | [] => (none, { link with accepted := link.accepted ++ [datagram] })

end Link

end ReliableDatagram
