import Colloquy.Text.Basic

/-!
# Foreign exceptions

Tool handlers and transports raise exceptions of classes that are not the
library's own. Of such a class only its name and its place below other classes
matter: what is an ordinary exception, what is a failure of the HTTP exchange.
-/

namespace Colloquy

/-- The classes of exceptions that are not the library's own. -/
inductive ForeignClass
  | base
  | cancelled
  | interrupt
  | exit
  | generatorExit
  | ordinary
  | arithmetic
  | zeroDivision
  | overflow
  | floatingPoint
  | assertion
  | buffer
  | missingAttribute
  | endOfFile
  | importing
  | moduleMissing
  | lookup
  | index
  | key
  | memory
  | name
  | unboundLocal
  | reference
  | stopIteration
  | stopAsyncIteration
  | grammar
  | indentation
  | tab
  | system
  | os
  | blocked
  | childProcess
  | interrupted
  | isDirectory
  | noDirectory
  | processMissing
  | connection
  | brokenPipe
  | connectionAborted
  | connectionRefused
  | connectionReset
  | fileExists
  | fileMissing
  | permission
  | timeout
  | runtime
  | notImplemented
  | recursion
  | type
  | value
  | jsonDecode
  | unicode
  | unicodeDecode
  | unicodeEncode
  | hostName
  | hostDirection
  | hostLetter
  | hostPlace
  | http
  | httpRequest
  | transport
  | httpTimeout
  | connectTimeout
  | readTimeout
  | writeTimeout
  | poolTimeout
  | network
  | connect
  | read
  | write
  | close
  | protocol
  | localProtocol
  | remoteProtocol
  | proxy
  | unsupportedProtocol
  | decoding
  | tooManyRedirects
  | httpStatus
  | invalidUrl
  | cookieConflict
  | stream
  | streamConsumed
  | streamClosed
  | responseNotRead
  | requestNotRead
  deriving DecidableEq

namespace ForeignClass

/-- The name of a class and the class right above it. -/
def entry : ForeignClass → Text × Option ForeignClass
  | .base => ("BaseException", none)
  | .cancelled => ("CancelledError", some .base)
  | .interrupt => ("KeyboardInterrupt", some .base)
  | .exit => ("SystemExit", some .base)
  | .generatorExit => ("GeneratorExit", some .base)
  | .ordinary => ("Exception", some .base)
  | .arithmetic => ("ArithmeticError", some .ordinary)
  | .zeroDivision => ("ZeroDivisionError", some .arithmetic)
  | .overflow => ("OverflowError", some .arithmetic)
  | .floatingPoint => ("FloatingPointError", some .arithmetic)
  | .assertion => ("AssertionError", some .ordinary)
  | .buffer => ("BufferError", some .ordinary)
  | .missingAttribute => ("AttributeError", some .ordinary)
  | .endOfFile => ("EOFError", some .ordinary)
  | .importing => ("ImportError", some .ordinary)
  | .moduleMissing => ("ModuleNotFoundError", some .importing)
  | .lookup => ("LookupError", some .ordinary)
  | .index => ("IndexError", some .lookup)
  | .key => ("KeyError", some .lookup)
  | .memory => ("MemoryError", some .ordinary)
  | .name => ("NameError", some .ordinary)
  | .unboundLocal => ("UnboundLocalError", some .name)
  | .reference => ("ReferenceError", some .ordinary)
  | .stopIteration => ("StopIteration", some .ordinary)
  | .stopAsyncIteration => ("StopAsyncIteration", some .ordinary)
  | .grammar => ("SyntaxError", some .ordinary)
  | .indentation => ("IndentationError", some .grammar)
  | .tab => ("TabError", some .indentation)
  | .system => ("SystemError", some .ordinary)
  | .os => ("OSError", some .ordinary)
  | .blocked => ("BlockingIOError", some .os)
  | .childProcess => ("ChildProcessError", some .os)
  | .interrupted => ("InterruptedError", some .os)
  | .isDirectory => ("IsADirectoryError", some .os)
  | .noDirectory => ("NotADirectoryError", some .os)
  | .processMissing => ("ProcessLookupError", some .os)
  | .connection => ("ConnectionError", some .os)
  | .brokenPipe => ("BrokenPipeError", some .connection)
  | .connectionAborted => ("ConnectionAbortedError", some .connection)
  | .connectionRefused => ("ConnectionRefusedError", some .connection)
  | .connectionReset => ("ConnectionResetError", some .connection)
  | .fileExists => ("FileExistsError", some .os)
  | .fileMissing => ("FileNotFoundError", some .os)
  | .permission => ("PermissionError", some .os)
  | .timeout => ("TimeoutError", some .os)
  | .runtime => ("RuntimeError", some .ordinary)
  | .notImplemented => ("NotImplementedError", some .runtime)
  | .recursion => ("RecursionError", some .runtime)
  | .type => ("TypeError", some .ordinary)
  | .value => ("ValueError", some .ordinary)
  | .jsonDecode => ("JSONDecodeError", some .value)
  | .unicode => ("UnicodeError", some .value)
  | .unicodeDecode => ("UnicodeDecodeError", some .unicode)
  | .unicodeEncode => ("UnicodeEncodeError", some .unicode)
  | .hostName => ("IDNAError", some .unicode)
  | .hostDirection => ("IDNABidiError", some .hostName)
  | .hostLetter => ("InvalidCodepoint", some .hostName)
  | .hostPlace => ("InvalidCodepointContext", some .hostName)
  | .http => ("HTTPError", some .ordinary)
  | .httpRequest => ("RequestError", some .http)
  | .transport => ("TransportError", some .httpRequest)
  | .httpTimeout => ("TimeoutException", some .transport)
  | .connectTimeout => ("ConnectTimeout", some .httpTimeout)
  | .readTimeout => ("ReadTimeout", some .httpTimeout)
  | .writeTimeout => ("WriteTimeout", some .httpTimeout)
  | .poolTimeout => ("PoolTimeout", some .httpTimeout)
  | .network => ("NetworkError", some .transport)
  | .connect => ("ConnectError", some .network)
  | .read => ("ReadError", some .network)
  | .write => ("WriteError", some .network)
  | .close => ("CloseError", some .network)
  | .protocol => ("ProtocolError", some .transport)
  | .localProtocol => ("LocalProtocolError", some .protocol)
  | .remoteProtocol => ("RemoteProtocolError", some .protocol)
  | .proxy => ("ProxyError", some .transport)
  | .unsupportedProtocol => ("UnsupportedProtocol", some .transport)
  | .decoding => ("DecodingError", some .httpRequest)
  | .tooManyRedirects => ("TooManyRedirects", some .httpRequest)
  | .httpStatus => ("HTTPStatusError", some .http)
  | .invalidUrl => ("InvalidURL", some .ordinary)
  | .cookieConflict => ("CookieConflict", some .ordinary)
  | .stream => ("StreamError", some .runtime)
  | .streamConsumed => ("StreamConsumed", some .stream)
  | .streamClosed => ("StreamClosed", some .stream)
  | .responseNotRead => ("ResponseNotRead", some .stream)
  | .requestNotRead => ("RequestNotRead", some .stream)

/-- Every class once. -/
def all : List ForeignClass :=
  [.base, .cancelled, .interrupt, .exit, .generatorExit, .ordinary, .arithmetic, .zeroDivision,
    .overflow, .floatingPoint, .assertion, .buffer, .missingAttribute, .endOfFile, .importing,
    .moduleMissing, .lookup, .index, .key, .memory, .name, .unboundLocal, .reference,
    .stopIteration, .stopAsyncIteration, .grammar, .indentation, .tab, .system, .os, .blocked,
    .childProcess, .interrupted, .isDirectory, .noDirectory, .processMissing, .connection,
    .brokenPipe, .connectionAborted, .connectionRefused, .connectionReset, .fileExists,
    .fileMissing, .permission, .timeout, .runtime, .notImplemented, .recursion, .type, .value,
    .jsonDecode, .unicode, .unicodeDecode, .unicodeEncode, .hostName, .hostDirection, .hostLetter,
    .hostPlace, .http, .httpRequest, .transport, .httpTimeout, .connectTimeout, .readTimeout,
    .writeTimeout, .poolTimeout, .network, .connect, .read, .write, .close, .protocol,
    .localProtocol, .remoteProtocol, .proxy, .unsupportedProtocol, .decoding, .tooManyRedirects,
    .httpStatus, .invalidUrl, .cookieConflict, .stream, .streamConsumed, .streamClosed,
    .responseNotRead, .requestNotRead]

/-- The name of a class. -/
def className (c : ForeignClass) : Text :=
  c.entry.1

/-- The class right above a class. -/
def parent? (c : ForeignClass) : Option ForeignClass :=
  c.entry.2

/-- A class and those above it, nearest first, at most `depth` of them. -/
def lineage (depth : Nat) (c : ForeignClass) : List ForeignClass :=
  match depth with
  | 0 => []
  | depth + 1 =>
    c :: match c.parent? with
      | none => []
      | some above => lineage depth above

/-- A class and all classes above it, nearest first. -/
def ancestors (c : ForeignClass) : List ForeignClass :=
  c.lineage 8

/-- Whether a class is `above` or lies below it. -/
def isA (c above : ForeignClass) : Bool :=
  c.ancestors.contains above

/-- Names of classes besides their own. -/
def aliases : List (Text × ForeignClass) :=
  [("EnvironmentError", .os), ("IOError", .os)]

/-- The class of a name. -/
def ofName? (name : Text) : Option ForeignClass :=
  all.find? (fun c => c.className = name) <|>
    (aliases.find? fun entry => entry.1 = name).map (·.2)

end ForeignClass

end Colloquy
