import SchemaSdk.Sdk.Declaration
import SchemaSdk.Sdk.Method
import SchemaSdk.Sdk.Request

/-!
# The client module

The module with the client type: a constant with the request document of every operation, the
methods that every client has, and one method per operation that sends its document and decodes the
field that comes back.
-/
namespace SchemaSdk.Sdk

open SchemaSdk.Schema

/-- A method of the client that sends a request. -/
structure Call where
  method : String
  field : String
  constant : String
  doc : List String
  document : String
  parameters : List Member
  result : String
  deriving DecidableEq

namespace Call

/-- The call of an operation under a method name. -/
def ofOperation (c : Collection) (o : Operation) (method : String) : Call where
  method := method
  field := o.field.name
  constant := o.constant
  doc := docLines o.field.description
  document := (c.requestFor o).text
  parameters := o.arguments.map (Member.ofField c)
  result := c.rustTypeOf o.field

/-- The calls of all operations. -/
def ofCollection (c : Collection) : Except MethodCollision (List Call) :=
  (Operation.methods [] c.operations).map fun names =>
    c.operations.zipWith (ofOperation c) names

/-- The line that declares the document. -/
def documentLine (k : Call) : String :=
  "const " ++ k.constant ++ ": &str = r#\"" ++ k.document ++ "\"#;"

/-- The parameters of the method, each behind a comma. -/
def parameterText (k : Call) : String :=
  String.join (k.parameters.map fun p => ", " ++ p.ident ++ ": " ++ p.type)

/-- The object of variables that the method sends. -/
def variablesText (k : Call) : String :=
  ", ".intercalate (k.parameters.map fun p => "\"" ++ p.name ++ "\": " ++ p.ident)

/-- The lines of the method. -/
def lines (k : Call) : List String :=
  [""] ++ docComment "    " k.doc ++ [
    "    pub async fn " ++ k.method ++ "(&self" ++ k.parameterText ++ ") -> Result<" ++ k.result ++
      ", ClientError> \x7b",
    "        let variables = json!(\x7b " ++ k.variablesText ++ " \x7d);",
    "        let mut data = self.execute(" ++ k.constant ++ ", variables).await?;",
    "        let value = data",
    "            .get_mut(\"" ++ k.field ++ "\")",
    "            .map(Value::take)",
    "            .unwrap_or(Value::Null);",
    "        Ok(serde_json::from_value(value)?)",
    "    \x7d"]

end Call

/-- What a client module is made from. -/
structure ClientModule where
  client : String
  schemaModule : String
  endpoint : Option String
  calls : List Call

namespace ClientModule

/-- What stands before the documents. -/
def header (m : ClientModule) : List String := [
  "//! GraphQL client generated by sdkgen.",
  "//!",
  "//! Do not edit by hand; regenerate with \x60sdkgen generate\x60.",
  "//! Requires \x60reqwest\x60 (with the \x60json\x60 feature), \x60serde\x60, \x60serde_json\x60 and",
  "//! \x60thiserror\x60 in the consuming crate.",
  "",
  "#![allow(clippy::all)]",
  "",
  "use serde::de::DeserializeOwned;",
  "use serde::Deserialize;",
  "use serde_json::\x7bjson, Value\x7d;",
  "",
  "#[allow(unused_imports)]",
  "use super::" ++ m.schemaModule ++ "::*;",
  "",
  "/// Errors returned by [\x60" ++ m.client ++ "\x60].",
  "#[derive(Debug, thiserror::Error)]",
  "pub enum ClientError \x7b",
  "    #[error(\"HTTP error: \x7b0\x7d\")]",
  "    Http(#[from] reqwest::Error),",
  "",
  "    #[error(\"GraphQL errors: \x7b\x7d\", .0.join(\"; \"))]",
  "    GraphQl(Vec<String>),",
  "",
  "    #[error(\"Failed to decode response: \x7b0\x7d\")]",
  "    Decode(#[from] serde_json::Error),",
  "",
  "    #[error(\"Response contained no data\")]",
  "    MissingData,",
  "\x7d",
  "",
  "#[derive(Deserialize)]",
  "struct GraphQlError \x7b",
  "    message: String,",
  "\x7d",
  "",
  "#[derive(Deserialize)]",
  "struct GraphQlResponse \x7b",
  "    data: Option<Value>,",
  "    #[serde(default)]",
  "    errors: Vec<GraphQlError>,",
  "\x7d",
  ""]

/-- The client type and the functions that make one. -/
def construction (m : ClientModule) : List String := [
  "",
  "#[derive(Debug, Clone)]",
  "pub struct " ++ m.client ++ " \x7b",
  "    http: reqwest::Client,",
  "    endpoint: String,",
  "\x7d",
  "",
  "impl " ++ m.client ++ " \x7b",
  "    pub fn new(endpoint: impl Into<String>) -> Self \x7b",
  "        Self::with_http_client(reqwest::Client::new(), endpoint)",
  "    \x7d",
  "",
  "    /// Use a preconfigured \x60reqwest::Client\x60, e.g. one carrying auth headers.",
  "    pub fn with_http_client(http: reqwest::Client, endpoint: impl Into<String>) -> Self \x7b",
  "        Self \x7b",
  "            http,",
  "            endpoint: endpoint.into(),",
  "        \x7d",
  "    \x7d"]

/-- The function that makes a client for the default endpoint, if there is a visible one. -/
def defaultEndpoint (m : ClientModule) : List String :=
  match m.endpoint with
  | none => []
  | some endpoint =>
    if endpoint.isEmpty then []
    else [
      "",
      "    pub fn default_endpoint() -> Self \x7b",
      "        Self::new(\"" ++ endpoint ++ "\")",
      "    \x7d"]

/-- The methods that every client has. -/
def fixedMethods : List String := [
  "",
  "    pub fn endpoint(&self) -> &str \x7b",
  "        &self.endpoint",
  "    \x7d",
  "",
  "    /// Execute a GraphQL document and return its \x60data\x60 object.",
  "    pub async fn execute(&self, document: &str, variables: Value) -> Result<Value, ClientError> \x7b",
  "        let response: GraphQlResponse = self",
  "            .http",
  "            .post(&self.endpoint)",
  "            .json(&json!(\x7b \"query\": document, \"variables\": variables \x7d))",
  "            .send()",
  "            .await?",
  "            .error_for_status()?",
  "            .json()",
  "            .await?;",
  "",
  "        if !response.errors.is_empty() \x7b",
  "            return Err(ClientError::GraphQl(",
  "                response.errors.into_iter().map(|e| e.message).collect(),",
  "            ));",
  "        \x7d",
  "",
  "        response.data.ok_or(ClientError::MissingData)",
  "    \x7d",
  "",
  "    /// Execute a document and deserialize its whole \x60data\x60 object.",
  "    pub async fn query<T: DeserializeOwned>(",
  "        &self,",
  "        document: &str,",
  "        variables: Value,",
  "    ) -> Result<T, ClientError> \x7b",
  "        let data = self.execute(document, variables).await?;",
  "        Ok(serde_json::from_value(data)?)",
  "    \x7d"]

/-- The lines of the module before tidying. -/
def lines (m : ClientModule) : List String :=
  m.header ++ m.calls.map (·.documentLine) ++ m.construction ++ m.defaultEndpoint ++
    fixedMethods ++ m.calls.flatMap (·.lines) ++ ["\x7d"]

end ClientModule
end SchemaSdk.Sdk
