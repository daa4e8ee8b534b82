import LibNfs.Client.Backend

/-! # The texts of errors

The `Display` of each error type. The text of an I/O error is the standard library's and a
parameter.
-/

namespace LibNfs

open Rpc (IoErrorKind RpcError)

/-- The message of an XDR error. -/
def Xdr.XdrError.text : XdrError → String
  | .truncated needed had =>
      "entrada truncada: se necesitaban " ++ toString needed ++ " bytes pero quedaban " ++ toString had
  | .limitExceeded len limit => "longitud " ++ toString len ++ " supera el límite " ++ toString limit
  | .lengthOverflow len => "longitud " ++ toString len ++ " no representable en u32"
  | .invalidBool value => "bool XDR inválido: " ++ toString value
  | .invalidEnum discriminant => "discriminante de enum inválido: " ++ toString discriminant
  | .invalidUnion discriminant => "discriminante de union inválido: " ++ toString discriminant
  | .invalidUtf8 => "cadena XDR no es UTF-8 válido"
  | .trailingData count => "sobran " ++ toString count ++ " bytes tras la decodificación"

section Texts

variable (ioText : IoErrorKind → String)

/-- The message of an RPC error. -/
def Rpc.RpcError.text : RpcError → String
  | .io kind => "E/S: " ++ ioText kind
  | .xdr error => "XDR: " ++ error.text
  | .timeout => "timeout esperando la respuesta RPC"
  | .connectionClosed => "la conexión se cerró"
  | .recordTooLarge => "registro RPC demasiado grande"
  | .malformedReply => "respuesta RPC inesperada o malformada"
  | .rpcMismatch low high =>
      "RPC_MISMATCH: el servidor soporta versiones RPC " ++ toString low ++ "..=" ++ toString high
  | .authError stat => "error de autenticación RPC (auth_stat=" ++ toString stat ++ ")"
  | .progUnavail => "programa RPC no disponible en el servidor"
  | .progMismatch low high =>
      "PROG_MISMATCH: el servidor soporta versiones " ++ toString low ++ "..=" ++ toString high
  | .procUnavail => "procedimiento RPC no disponible"
  | .garbageArgs => "el servidor no pudo decodificar los argumentos (GARBAGE_ARGS)"
  | .systemErr => "error interno del servidor RPC (SYSTEM_ERR)"
  | .unknownAcceptStat stat => "accept_stat desconocido: " ++ toString stat

/-- The message of a protocol error. -/
def Proto.ProtoError.text : ProtoError → String
  | .rpc error => "RPC: " ++ error.text ioText
  | .xdr error => "XDR: " ++ error.text
  | .io kind => "E/S: " ++ ioText kind
  | .portNotRegistered prog vers =>
      "el servicio (prog=" ++ toString prog ++ ", vers=" ++ toString vers ++
        ") no está registrado en el portmapper"
  | .nfs3 status => "NFSv3 falló con nfsstat3=" ++ toString status
  | .nfs4 status => "NFSv4 falló con nfsstat4=" ++ toString status
  | .nlm status => "NLM falló con nlm4_stat=" ++ toString status
  | .protocol text => "protocolo: " ++ text

/-- The message of an error of the client. -/
def Client.NfsError.text : NfsError → String
  | .notFound => "no existe el fichero o directorio"
  | .notADirectory => "no es un directorio"
  | .isADirectory => "es un directorio"
  | .alreadyExists => "ya existe"
  | .permissionDenied => "permiso denegado"
  | .notEmpty => "el directorio no está vacío"
  | .nameTooLong => "nombre demasiado largo"
  | .noSpace => "sin espacio en el dispositivo"
  | .readOnly => "sistema de ficheros de solo lectura"
  | .stale => "file handle obsoleto"
  | .invalidArgument => "argumento inválido"
  | .tooManySymlinks => "demasiados enlaces simbólicos al resolver la ruta"
  | .locked => "recurso bloqueado por otro cliente"
  | .invalidPath path => "ruta inválida: " ++ path
  | .invalidUrl text => "URL inválida: " ++ text
  | .io kind => "E/S: " ++ ioText kind
  | .proto error => "protocolo: " ++ error.text ioText

end Texts

end LibNfs
