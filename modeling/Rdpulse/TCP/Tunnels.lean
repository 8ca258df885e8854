import Rdpulse.TCP.Program

namespace Rdpulse.TCP

open Foundation Pipes Protocol

/-! # What the threads know

Each end of a connection is held by one thread, and bytes pass at an end only by a step of
its holder. So what a handler knows about the bytes at its own ends is disturbed by no
other. -/

/-! ## Who holds an end -/

def placeOf (pipes : Pipes PipeInfo) (index : Nat) : Option Place :=
  pipes.infos[index]?.map PipeInfo.place

def holder (pipes : Pipes PipeInfo) (e : End) : Option Nat :=
  match pipes.infos[e.pipe]? with
  | none => none
  | some info =>
      match e.side with
      | .near => some info.opener
      | .far => info.accepter

def Visited : Place → Prop
  | .publicPort _ | .localPort _ => True
  | _ => False

def IsRDP : Place → Prop
  | .rdp _ => True
  | _ => False

variable (deployment : Deployment)

def Holds (thread : Thread) (e : End) (place : Place) : Prop :=
  match thread with
  | .user held =>
      held = e ∧ match e.side with
        | .near => Visited place
        | .far => IsRDP place
  | .single served accepted _ => e = acceptedEnd accepted ∧ place = served
  | .double served accepted opened _ =>
      (e = acceptedEnd accepted ∧ place = served) ∨
        (e = openedEnd opened ∧ place = onward deployment served)
  | _ => False

theorem holder_congr {before after : Pipes PipeInfo} (infos : after.infos = before.infos) (e : End) :
    holder after e = holder before e := by
  simp only [holder, infos]

theorem placeOf_congr {before after : Pipes PipeInfo} (infos : after.infos = before.infos)
    (index : Nat) : placeOf after index = placeOf before index := by
  simp only [placeOf, infos]

/-! ## What a handler knows about the bytes at its ends -/

def skip : Place → Nat
  | .agent _ => tcpHeaderSize
  | _ => 0

def SingleKnown (pipes : Pipes PipeInfo) (place : Place) (accepted : Nat) : SinglePoint → Prop
  | .checking | .opening =>
      skip place = 0 ∧ pipes.told (acceptedEnd accepted) = [] ∧
        pipes.heard (acceptedEnd accepted) = []
  | .readOpen got =>
      skip place = tcpHeaderSize ∧ pipes.told (acceptedEnd accepted) = [] ∧
        pipes.heard (acceptedEnd accepted) = got ∧ got.length ≤ tcpHeaderSize
  | .dialing hdr =>
      skip place = tcpHeaderSize ∧ pipes.told (acceptedEnd accepted) = [] ∧
        pipes.heard (acceptedEnd accepted) = hdr.encode ∧ hdr.type = tcpTypeOpen
  | .writeError call =>
      skip place = tcpHeaderSize ∧
        ∃ hdr, pipes.told (acceptedEnd accepted) ++ call.rest = (errorHeader hdr).encode
  | .leaving _ =>
      pipes.told (acceptedEnd accepted) = [] ∨ (skip place = tcpHeaderSize ∧
        ∃ hdr rest, pipes.told (acceptedEnd accepted) ++ rest = (errorHeader hdr).encode)

/-- The handler asks an Agent for a connection: its header is on the stream, whole or in part. -/
def Asked (pipes : Pipes PipeInfo) (opened : Nat) (rest : Bytes) : Prop :=
  ∃ connID, pipes.told (openedEnd opened) ++ rest = (openHeader connID).encode

/-- The Agent has been asked, and its consent is on the stream, whole or in part. -/
def Consented (pipes : Pipes PipeInfo) (accepted : Nat) (rest : Bytes) : Prop :=
  ∃ hdr : TCPHeader, hdr.type = tcpTypeOpen ∧ pipes.heard (acceptedEnd accepted) = hdr.encode ∧
    pipes.told (acceptedEnd accepted) ++ rest = (okHeader hdr).encode

/-- What has passed when the copying starts: headers, and on the right streams only. -/
structure Greeted (pipes : Pipes PipeInfo) (place : Place) (accepted opened : Nat) : Prop where
  toldAccepted : (pipes.told (acceptedEnd accepted)).length = skip place
  heardAccepted : (pipes.heard (acceptedEnd accepted)).length = skip place
  toldOpened : (pipes.told (openedEnd opened)).length = skip (onward deployment place)
  heardOpened : (pipes.heard (openedEnd opened)).length = skip (onward deployment place)
  asks : skip (onward deployment place) = tcpHeaderSize → Asked pipes opened [] ∧
    ∃ hdr : TCPHeader, hdr.type = tcpTypeOpenOK ∧ pipes.heard (openedEnd opened) = hdr.encode
  answers : skip place = tcpHeaderSize → Consented pipes accepted []

structure Stopped (pipes : Pipes PipeInfo) (place : Place) (accepted opened : Nat) : Prop where
  toldAccepted : (pipes.told (acceptedEnd accepted)).length ≤ skip place
  toldOpened : (pipes.told (openedEnd opened)).length ≤ skip (onward deployment place)
  asks : skip (onward deployment place) = tcpHeaderSize → ∃ rest, Asked pipes opened rest
  answers : skip place = tcpHeaderSize → ∃ rest, Consented pipes accepted rest

def DoubleKnown (pipes : Pipes PipeInfo) (place : Place) (accepted opened : Nat) :
    DoublePoint → Prop
  | .writeOpen call =>
      skip place = 0 ∧ skip (onward deployment place) = tcpHeaderSize ∧
        pipes.told (acceptedEnd accepted) = [] ∧ pipes.heard (acceptedEnd accepted) = [] ∧
        pipes.heard (openedEnd opened) = [] ∧ Asked pipes opened call.rest
  | .readAnswer got =>
      skip place = 0 ∧ skip (onward deployment place) = tcpHeaderSize ∧
        pipes.told (acceptedEnd accepted) = [] ∧ pipes.heard (acceptedEnd accepted) = [] ∧
        pipes.heard (openedEnd opened) = got ∧ got.length ≤ tcpHeaderSize ∧ Asked pipes opened []
  | .writeOK call =>
      skip place = tcpHeaderSize ∧ skip (onward deployment place) = 0 ∧
        pipes.told (openedEnd opened) = [] ∧ pipes.heard (openedEnd opened) = [] ∧
        Consented pipes accepted call.rest
  | .proxying splice _ =>
      ∃ origin : Pipes PipeInfo,
        splice.Carries origin pipes (wiring deployment place accepted opened) ∧
          Greeted deployment origin place accepted opened
  | .leaving _ => Stopped deployment pipes place accepted opened

def Known (pipes : Pipes PipeInfo) (self : Nat) : Thread → Prop
  | .visitor place => Visited place
  | .service _ | .faults => True
  | .accepting place => ¬IsRDP place
  | .user e => holder pipes e = some self
  | .single place accepted point =>
      ¬IsRDP place ∧ holder pipes (acceptedEnd accepted) = some self ∧
        placeOf pipes accepted = some place ∧ SingleKnown pipes place accepted point
  | .double place accepted opened point =>
      ¬IsRDP place ∧ holder pipes (acceptedEnd accepted) = some self ∧
        holder pipes (openedEnd opened) = some self ∧ placeOf pipes accepted = some place ∧
        placeOf pipes opened = some (onward deployment place) ∧
        DoubleKnown deployment pipes place accepted opened point

/-! ## Bytes that have passed stay as they are -/

section Frames

variable {pipes after : Pipes PipeInfo} {place : Place} {accepted opened : Nat}

def Untouched (pipes after : Pipes PipeInfo) (e : End) : Prop :=
  after.told e = pipes.told e ∧ after.heard e = pipes.heard e

theorem SingleKnown.frame {point : SinglePoint} (known : SingleKnown pipes place accepted point)
    (untouched : Untouched pipes after (acceptedEnd accepted)) :
    SingleKnown after place accepted point := by
  cases point <;> simp only [SingleKnown, untouched.1, untouched.2] at known ⊢ <;> exact known

theorem Asked.frame {rest : Bytes} (asked : Asked pipes opened rest)
    (untouched : Untouched pipes after (openedEnd opened)) : Asked after opened rest := by
  rw [Asked, untouched.1]
  exact asked

theorem Consented.frame {rest : Bytes} (consented : Consented pipes accepted rest)
    (untouched : Untouched pipes after (acceptedEnd accepted)) : Consented after accepted rest := by
  rw [Consented, untouched.1, untouched.2]
  exact consented

theorem wiring_ends (place : Place) (accepted opened : Nat) :
    ((wiring deployment place accepted opened).one = acceptedEnd accepted ∧
        (wiring deployment place accepted opened).two = openedEnd opened) ∨
      ((wiring deployment place accepted opened).one = openedEnd opened ∧
        (wiring deployment place accepted opened).two = acceptedEnd accepted) := by
  cases place with
  | relay controller => exact .inl ⟨rfl, rfl⟩
  | agent agent => exact .inl ⟨rfl, rfl⟩
  | publicPort agent => exact .inr ⟨rfl, rfl⟩
  | localPort controller => exact .inr ⟨rfl, rfl⟩
  | rdp agent => exact .inr ⟨rfl, rfl⟩

theorem acceptedEnd_ne_openedEnd (accepted opened : Nat) :
    acceptedEnd accepted ≠ openedEnd opened := by
  simp [acceptedEnd, openedEnd]

theorem wiring_apart (place : Place) (accepted opened : Nat) :
    (wiring deployment place accepted opened).one ≠ (wiring deployment place accepted opened).two := by
  rcases wiring_ends deployment place accepted opened with ⟨one, two⟩ | ⟨one, two⟩
  · rw [one, two]
    exact acceptedEnd_ne_openedEnd accepted opened
  · rw [one, two]
    exact (acceptedEnd_ne_openedEnd accepted opened).symm

variable {deployment}

theorem DoubleKnown.frame {point : DoublePoint}
    (known : DoubleKnown deployment pipes place accepted opened point)
    (first : Untouched pipes after (acceptedEnd accepted))
    (second : Untouched pipes after (openedEnd opened)) :
    DoubleKnown deployment after place accepted opened point := by
  cases point with
  | writeOpen call =>
      rcases known with ⟨here, there, told, heard, quiet, asked⟩
      exact ⟨here, there, first.1.trans told, first.2.trans heard, second.2.trans quiet,
        asked.frame second⟩
  | readAnswer got =>
      rcases known with ⟨here, there, told, heard, read, short, asked⟩
      exact ⟨here, there, first.1.trans told, first.2.trans heard, second.2.trans read, short,
        asked.frame second⟩
  | writeOK call =>
      rcases known with ⟨here, there, told, heard, consented⟩
      exact ⟨here, there, second.1.trans told, second.2.trans heard, consented.frame first⟩
  | proxying splice caller =>
      rcases known with ⟨origin, carries, greeted⟩
      refine ⟨origin, ?_, greeted⟩
      rcases wiring_ends deployment place accepted opened with ⟨one, two⟩ | ⟨one, two⟩
      · exact carries.frame (one ▸ first) (two ▸ second)
      · exact carries.frame (one ▸ second) (two ▸ first)
  | leaving ops =>
      refine ⟨by rw [first.1]; exact known.toldAccepted, by rw [second.1]; exact known.toldOpened,
        fun asking => ?_, fun answering => ?_⟩
      · rcases known.asks asking with ⟨rest, asked⟩
        exact ⟨rest, asked.frame second⟩
      · rcases known.answers answering with ⟨rest, consented⟩
        exact ⟨rest, consented.frame first⟩

end Frames

end Rdpulse.TCP
