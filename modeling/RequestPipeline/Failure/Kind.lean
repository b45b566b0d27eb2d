/-!
# Kinds of failures

A failure is of one of nine kinds of the pipeline itself, or of a kind that comes from outside: from
the network layer, the library that reads values, or code of the caller.  The kind decides about the
exit code of the program and about whether another attempt may go better.
-/

namespace RequestPipeline.Failure

/-- Faults of the network layer. -/
inductive NetworkFault where
  | connectTimeout
  | readTimeout
  | writeTimeout
  | poolTimeout
  | connectError
  | readError
  | writeError
  | closeError
  | proxyError
  | unsupportedProtocol
  | decodingError
  | tooManyRedirects
  | remoteProtocol
  | localProtocol
  | invalidUrl
  deriving DecidableEq, Repr

/-- Whether the fault counts as temporary. -/
def NetworkFault.isTemporary : NetworkFault → Bool
  | .connectTimeout | .readTimeout | .writeTimeout | .poolTimeout => true
  | .connectError | .readError | .writeError | .closeError => true
  | .remoteProtocol => true
  | _ => false

/-- Kinds of failures that come from outside the pipeline. -/
inductive OutsideKind where
  | value
  | runtime
  | timeout
  | connection
  | connectionReset
  | brokenPipe
  | system
  | type
  | attribute
  | key
  | custom
  /-- The user interrupts the program from the keyboard. -/
  | keyboard
  /-- A signal ends the program. -/
  | signal
  | jsonSyntax
  | undecodable
  | unencodable
  /-- Text that does not say how it is to be read. -/
  | unreadable
  | unserializable
  | schema
  | network (fault : NetworkFault)
  deriving DecidableEq, Repr

/-- Kinds of failures: nine of the pipeline itself, and those from outside. -/
inductive Kind where
  | general
  | usage
  | config
  | validation
  | build
  | remote
  | transport
  | decode
  | cancelled
  | outside (kind : OutsideKind)
  deriving DecidableEq, Repr

/-- The exit code of the program after a failure of a kind of its own. -/
def Kind.exitCode? : Kind → Option Int
  | .general | .config => some 1
  | .usage => some 2
  | .validation => some 3
  | .build => some 4
  | .remote => some 5
  | .transport => some 6
  | .decode => some 7
  | .cancelled => some 130
  | .outside _ => none

/-- Kinds for a value or a type that cannot be used; what cannot be read, written, or made to fit a
schema is a special case of a value that cannot be used. -/
def Kind.isBadArgument : Kind → Bool
  | .outside .value | .outside .type => true
  | .outside .jsonSyntax | .outside .undecodable | .outside .unencodable => true
  | .outside .unreadable | .outside .unserializable | .outside .schema => true
  | _ => false

/-- Timeouts and lost connections count as temporary by their kind. -/
def Kind.isTransient : Kind → Bool
  | .outside .timeout | .outside .connection | .outside .connectionReset
  | .outside .brokenPipe => true
  | _ => false

end RequestPipeline.Failure
