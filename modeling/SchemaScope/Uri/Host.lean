import SchemaScope.Text.Utf8
import SchemaScope.Uri.Error
import SchemaScope.Uri.Name

/-!
Hosts. The host of a scheme with rules of its own is looked up: it is a name, in
small letters and in ASCII alone, or an address. Of any other host nothing is
known but which characters it must not have.
-/

namespace SchemaScope.Uri

/-- An address of version 6 in brackets. -/
def bracketed (cs : List Char) : Except UriError (List Char) :=
  match cs.getLast?, ipv6? cs.dropLast with
  | some ']', some pieces => .ok ('[' :: ipv6Text pieces ++ [']'])
  | _, _ => .error .ipv6

def lookedUpHost (cs : List Char) : Except UriError (List Char) :=
  match cs with
  | '[' :: rest => bracketed rest
  | _ =>
    match (Text.decodeUtf8? (decode cs)).bind fun name =>
      Name.ascii? name.toList with
    | none => .error .domain
    | some [] => .error .emptyHost
    | some name =>
      if endsInNumber name then
        ((ipv4? name).map (.ok ∘ ipv4Text)).getD (.error .ipv4)
      else .ok name

/-- A host of which nothing is known. -/
def plainHost (cs : List Char) : Except UriError (List Char) :=
  match cs with
  | '[' :: rest => bracketed rest
  | _ =>
    if cs.any fun c => isBarred c || c == '\x00' then .error .hostCharacter
    else .ok (encode isHidden cs)

end SchemaScope.Uri
