import SnpGuest.Guest.Ioctl

namespace SnpGuest

/-!
# Scripted device

A guest device that follows a script: the n-th call gets the n-th reply, whatever it asks.  A reply
can write into the caller's memory, change the request, put another in its place, and end the call
in any way.  When the script has run out, the device behaves as if it were closed.
-/

/-- Bytes to write at places of a buffer, in order. -/
abbrev Patches := List (Nat × Bytes)

/-- Writes the patches that lie inside a block. -/
def Block.patch {n : Nat} (block : Block n) (patches : Patches) : Block n :=
  patches.foldl (fun block patch => (block.overwrite? patch.1 patch.2).getD block) block

/-- Writes patches into the bytes of a response. -/
def ResponseMessage.patch (response : ResponseMessage) (patches : Patches) : ResponseMessage :=
  .ofBlock (response.toBlock.patch patches)

/-- What a reply puts in the place of the request. -/
inductive Replacement where
  /-- An empty raw argument for the whole request. -/
  | raw
  /-- A plain request over zero data for the payload. -/
  | plainPayload
deriving DecidableEq

inductive ScriptedEnd where
  | answer (result : ExitResult)
  | refuseCommand
  | complain (text : String)
deriving DecidableEq

structure ScriptedReply where
  response : Patches
  errorWord : Option ErrorWord
  certificates : Patches
  certsLen : Option UInt32
  replacement : Option Replacement
  ending : ScriptedEnd
deriving DecidableEq

namespace ScriptedReply

def markError (reply : ScriptedReply) (request : GuestRequest) : GuestRequest :=
  match reply.errorWord with
  | some word => { request with errorWord := word }
  | none => request

/-- Writes the certificates of an extended request and its declared length. -/
def writeCertificates {n : Nat} (reply : ScriptedReply) (request : GuestRequest)
    (certificates : Block n) : GuestRequest × Block n :=
  match request.payload with
  | .report _ => (request, certificates)
  | .extended report certsLen =>
    let certsLen := reply.certsLen.getD certsLen
    ({ request with payload := .extended report certsLen }, certificates.patch reply.certificates)

/-- The request that a reply leaves. -/
def replace (reply : ScriptedReply) (request : GuestRequest) : Request :=
  match reply.replacement with
  | none => .guest request
  | some .raw => .raw []
  | some .plainPayload =>
    .guest { request with payload := .report (.new (.zero 64) 0) }

/-- How a reply ends a call with the given command. -/
def result (reply : ScriptedReply) (command : UInt64) : Except Error ExitResult :=
  match reply.ending with
  | .answer result => .ok result
  | .refuseCommand => .error (.invalidCommand command)
  | .complain text => .error (.unexpectedRequest (.described text))

def perform {n : Nat} (reply : ScriptedReply) (command : UInt64) (argument : Argument n) :
    Reply n :=
  let response := argument.response.patch reply.response
  match argument.request with
  | .raw bytes => ⟨reply.result command, { argument with request := .raw bytes, response }⟩
  | .guest request =>
    let (request, certificates) :=
      reply.writeCertificates (reply.markError request) argument.certificates
    ⟨reply.result command, ⟨reply.replace request, response, certificates⟩⟩

end ScriptedReply

/-- The device that follows a script; its state is what is left of the script. -/
def scriptedDevice : GuestDevice (List ScriptedReply) where
  ioctl command argument script :=
    match script with
    | [] => (⟨.error .notOpen, argument⟩, [])
    | reply :: rest => (reply.perform command argument, rest)

end SnpGuest
