import TlsSeed.Text.Blank
import TlsSeed.Text.Outline
import TlsSeed.Text.Quoted

/-! # Settings

Where the program writes. Only the endpoint can be chosen, by one variable of the environment; a
blank value counts as none, and any other is kept as it is, blanks around it included.
-/

namespace TlsSeed

open Text

/-- The variables of the environment. A value is bytes, as the operating system keeps it. -/
abbrev Environment := String → Option Bytes

/-- The value of a variable, if it is set and is a text. -/
def Environment.text? (env : Environment) (name : String) : Option String :=
  (env name).bind Utf8.decode?

/-- A client of the store: where it sends, and the region it signs for. -/
structure Client where
  endpointUrl : String
  region : String
  deriving DecidableEq, Repr

/-- A configuration of the client library. A part that is not given is looked for elsewhere. -/
structure Config where
  endpointUrl : Option String := none
  region : Option String := none
  deriving DecidableEq, Repr

/-- How the client library completes what it is given in an environment. -/
abbrev Loader := Config → Environment → Config

/-- Where the program writes. -/
structure Settings where
  endpointUrl : String
  region : String
  tableName : String
  deriving DecidableEq, Repr

namespace Settings

def endpointVariable : String := "LOCALSTACK_ENDPOINT_URL"

def defaultEndpoint : String := "http://localhost:4566"

def fixedRegion : String := "us-east-1"

def fixedTable : String := "core-routes-encryption-local"

/-- The settings for a chosen endpoint. -/
def withEndpoint (endpoint : Option String) : Settings where
  endpointUrl := (endpoint.filter (!isBlank ·)).getD defaultEndpoint
  region := fixedRegion
  tableName := fixedTable

def standard : Settings :=
  withEndpoint none

def ofEnvironment (env : Environment) : Settings :=
  withEndpoint (env.text? endpointVariable)

/-- What the client library is given: endpoint and region, so that it has to look for neither. -/
def given (s : Settings) : Config where
  endpointUrl := some s.endpointUrl
  region := some s.region

/-- The configuration that the client library loads for the settings. -/
def load (s : Settings) (loader : Loader) (env : Environment) : Config :=
  loader s.given env

/-- The client for the settings. It takes neither endpoint nor region from the environment. -/
def client (s : Settings) : Client where
  endpointUrl := s.endpointUrl
  region := s.region

def outline (s : Settings) : Outline :=
  .fields "SeederConfig" [("endpoint_url", .text (Quoted.quote s.endpointUrl)),
    ("region", .text (Quoted.quote s.region)), ("table_name", .text (Quoted.quote s.tableName))]

end Settings

end TlsSeed
